import QuestFlow.Path
import QuestFlow.Quest.NodeDocument
import QuestFlow.Quest.Identifier

/-!
# Quests

A quest is an ID, a few descriptive fields, and its nodes in document order.  It also remembers the
file that it was read from, which is no part of the document.

`Quest.ofDocument` is the one way from a document to a quest: it refuses an empty document, one that
is no mapping, and one with faults, and it names all of the faults.  `Quest.toDocument` is the way
back: fields without a value and left-over nulls of a record are not written.
-/

namespace QuestFlow

/-- A quest. -/
structure Quest where
  id : String
  displayName : Localized := {}
  typeVersion : Option Int := none
  version : Option Int := none
  type : Option String := none
  repeatable : Option String := none
  nodes : List Node := []
  extra : Extra := []
  /-- the file that the quest was read from -/
  source : Option Path := none
  deriving DecidableEq, Repr

/-- Why a document is not a quest. -/
inductive QuestError where
  | emptyDocument
  | notMapping
  | faulty (faults : List Fault)
  /-- the file cannot be read; the reason is that of the reader -/
  | unreadable (reason : String)
  deriving DecidableEq, Repr

/-- The reason in a message. -/
def QuestError.reason : QuestError → String
  | .emptyDocument => "empty document"
  | .notMapping => "document is not a mapping"
  | .faulty faults => Fault.report faults
  | .unreadable reason => reason

/-- The message about a document from the given file. -/
def QuestError.message (e : QuestError) (source : Option Path) : String :=
  let place := match source with
    | some p => " at " ++ p.text
    | none => ""
  "Failed to parse quest" ++ place ++ ": " ++ e.reason

namespace Quest

/-- The IDs of the nodes, in document order. -/
def nodeIds (q : Quest) : List Int := q.nodes.map (·.id)

/-- The nodes at which a flow starts. -/
def entryPoints (q : Quest) : List Node := q.nodes.filter (·.isEntryPoint)

/-- The first node with the given ID. -/
def node? (q : Quest) (id : Int) : Option Node := q.nodes.find? (·.id == id)

/-- The place in the document of the first node with the given ID. -/
def position? (q : Quest) (id : Int) : Option Nat := q.nodes.findIdx? (·.id == id)

/-- Each node ID once, with the place of the first node that has it. -/
def positions (q : Quest) : List (Int × Nat) :=
  q.nodeIds.eraseDups.filterMap fun id => (q.position? id).map (id, ·)

/-! ## Reading -/

def questIdField : Spelled := ⟨"QuestID", "quest_id"⟩
def displayNameField : Spelled := ⟨"DisplayName", "display_name"⟩
def typeVersionField : Spelled := ⟨"QuestTypeVersion", "quest_type_version"⟩
def versionField : Spelled := ⟨"QuestVersion", "quest_version"⟩
def questTypeField : Spelled := ⟨"QuestType", "quest_type"⟩
def repeatableField : Spelled := ⟨"Repeatable", "repeatable"⟩
def nodesField : Spelled := ⟨"QuestNodes", "quest_nodes"⟩

/-- The fields of a quest. -/
def fields : List Spelled :=
  [questIdField, displayNameField, typeVersionField, versionField, questTypeField,
    repeatableField, nodesField]

/-- Reads a quest ID: its length is looked at before its form. -/
def readId : Value → Checked String
  | .text s =>
    if s.length > QuestId.maxLength then .fail (.tooLong QuestId.maxLength)
    else if QuestId.isWellFormed s.toList then .ok s
    else .fail (.unmatched QuestId.pattern)
  | _ => .fail .notText

/-- Reads the entries of a quest. -/
def readEntries (es : Entries) : Checked Quest :=
  ((((((((questIdField.required readId es).map fun id name typeVersion version type repeatable nodes
        extra => Quest.mk id name typeVersion version type repeatable nodes extra none).seq
    (displayNameField.optional Localized.read {} es)).seq
    (typeVersionField.optional (Value.readNullable Value.readInt) none es)).seq
    (versionField.optional (Value.readNullable Value.readInt) none es)).seq
    (questTypeField.optional (Value.readNullable Value.readText) none es)).seq
    (repeatableField.optional (Value.readNullable Value.readText) none es)).seq
    (nodesField.optional (Value.readList Node.read) [] es)).seq
    (leftOver fields es)

/-- Reads a quest that has no file. -/
def read : Value → Checked Quest := record "Quest" readEntries

/-- The quest that a document describes. -/
def ofDocument (document : Value) (source : Option Path) : Except QuestError Quest :=
  match document with
  | .null => .error .emptyDocument
  | .mapping es => match readEntries es with
    | .ok q => .ok { q with source }
    | .faulty faults => .error (.faulty faults)
  | _ => .error .notMapping

/-! ## Writing -/

/-- The entries that a quest is written as. -/
def entries (nulls : Nulls) (q : Quest) : Fields :=
  [("QuestID", .text q.id), ("DisplayName", q.displayName.write nulls),
    ("QuestTypeVersion", .ofInt? q.typeVersion), ("QuestVersion", .ofInt? q.version),
    ("QuestType", .ofText? q.type), ("Repeatable", .ofText? q.repeatable),
    ("QuestNodes", .list (q.nodes.map (·.write nulls)))] ++ q.extra

/-- Writes a quest. -/
def write (nulls : Nulls) (q : Quest) : Value := writeRecord nulls (q.entries nulls)

/-- The document of a quest. -/
def toDocument (q : Quest) : Value := q.write .dropped

end Quest
end QuestFlow

import QuestFlow.Catalog
import QuestFlow.Document.Value

/-!
# Conditions and actions

A condition or an action is written in a document as a mapping with one telling key, or, for some
actions, as a bare text.  What the program makes of it is its *meaning*; the written value is kept
beside it and is what goes back into a document.

The meaning is decided by the entries in document order: each telling key wants a value of a certain
shape, and the first entry with a telling key and a fitting value decides.  Whatever fits nothing is
*unrecognized*: it is kept, and no rule looks into it.
-/

namespace QuestFlow

/-- A mention of an entity inside a condition or an action. -/
structure Reference where
  kind : EntityKind
  id : String
  /-- the telling key under which the mention stands -/
  context : String
  deriving DecidableEq, Repr

/-- What a condition asks for. -/
inductive Requirement where
  | resourceAvailability (resource : Option String)
  | itemUsedOnObject (item object : Option String)
  | itemUsedOnNpc (item npc : Option String)
  | factionStanding (faction : Option String)
  | inventory (items : List String)
  | itemLost (item : Option String)
  | questCompleted (quest : Option String)
  | unrecognized
  deriving DecidableEq, Repr

/-- How a flow can end. -/
inductive Ending where
  | complete | fail | decline
  deriving DecidableEq, Repr

/-- What an action does. -/
inductive Effect where
  | ending (how : Ending)
  | journalEntry
  /-- the text of the stage in each locale -/
  | stageDescription (texts : List (String × String))
  | itemsGained (items : List String)
  | itemsLost (items : List String)
  | factionStanding (faction : Option String)
  | unrecognized
  deriving DecidableEq, Repr

/-- A condition: the value in the document and what it asks for. -/
structure Condition where
  raw : Value
  requirement : Requirement
  deriving DecidableEq, Repr

/-- An action: the value in the document and what it does. -/
structure Action where
  raw : Value
  effect : Effect
  deriving DecidableEq, Repr

/-! ## Reading the parts of a payload -/

/-- The text under a key, if there is one and it is not empty. -/
def filledField? (name : String) (entries : Entries) : Option String :=
  (Value.lookup name entries).bind Value.filledText?

/-- The item types that a list of stacks names: one for each mapping with a filled `Type`. -/
def stackTypes (items : List Value) : List String :=
  items.filterMap fun
    | .mapping entries => filledField? "Type" entries
    | _ => none

/-- The filled texts among the entries, by the key they stand under. -/
def localizedTexts (entries : Entries) : List (String × String) :=
  entries.filterMap fun
    | (.text locale, .text t) => if t.isEmpty then none else some (locale, t)
    | _ => none

namespace Ending

/-- The telling word of an ending. -/
def word : Ending → String
  | .complete => "CompleteQuest"
  | .fail => "FailQuest"
  | .decline => "DeclineQuest"

/-- The ending that a word tells. -/
def ofWord? (s : String) : Option Ending :=
  [complete, fail, decline].find? (·.word == s)

end Ending

/-! ## Conditions -/

namespace Requirement

/-- What the entry with this key and value asks for, if the key is telling and the value fits. -/
def ofEntry? : Key → Value → Option Requirement
  | .text "ResourceAvailability", .mapping es =>
    some (.resourceAvailability (filledField? "Resource" es))
  | .text "ItemUsedOnObject", .mapping es =>
    some (.itemUsedOnObject (filledField? "Item" es) (filledField? "Object" es))
  | .text "ItemUsedOnNPC", .mapping es =>
    some (.itemUsedOnNpc (filledField? "Item" es) (filledField? "NPC" es))
  | .text "FactionStanding", .mapping es => some (.factionStanding (filledField? "Faction" es))
  | .text "Inventory", .list items => some (.inventory (stackTypes items))
  | .text "ItemLost", .text s => some (.itemLost (Value.text s).filledText?)
  | .text "QuestCompleted", .text s => some (.questCompleted (Value.text s).filledText?)
  | _, _ => none

/-- What a condition asks for: its first telling entry decides. -/
def ofValue : Value → Requirement
  | .mapping entries => (entries.findSome? fun (k, v) => ofEntry? k v).getD .unrecognized
  | _ => .unrecognized

/-- The entities that a condition mentions. -/
def references : Requirement → List Reference
  | .resourceAvailability r => mention .resource r "ResourceAvailability"
  | .itemUsedOnObject i o =>
    mention .item i "ItemUsedOnObject" ++ mention .object o "ItemUsedOnObject"
  | .itemUsedOnNpc i n => mention .item i "ItemUsedOnNPC" ++ mention .character n "ItemUsedOnNPC"
  | .factionStanding f => mention .faction f "FactionStanding"
  | .inventory items => mentions .item items "Inventory"
  | .itemLost i => mention .item i "ItemLost"
  | .questCompleted _ => []
  | .unrecognized => []
where
  /-- One mention, unless the ID is missing. -/
  mention (kind : EntityKind) (id : Option String) (context : String) : List Reference :=
    match id with
    | some id => if id.isEmpty then [] else [⟨kind, id, context⟩]
    | none => []
  /-- A mention for each ID. -/
  mentions (kind : EntityKind) (ids : List String) (context : String) : List Reference :=
    ids.map fun id => ⟨kind, id, context⟩

end Requirement

/-- The condition that a value in a document is. -/
def Condition.ofValue (v : Value) : Condition := ⟨v, .ofValue v⟩

/-- The entities that a condition mentions. -/
def Condition.references (c : Condition) : List Reference := c.requirement.references

/-- The quest that has to be completed first, if the condition names one. -/
def Condition.completedQuest? (c : Condition) : Option String :=
  match c.requirement with
  | .questCompleted (some id) => if id.isEmpty then none else some id
  | _ => none

/-! ## Actions -/

namespace Effect

/-- What the entry with this key and value does, if the key is telling and the value fits. -/
def ofEntry? : Key → Value → Option Effect
  | .text "ItemsGained", .list items => some (.itemsGained (stackTypes items))
  | .text "ItemsLost", .list items => some (.itemsLost (stackTypes items))
  | .text "FactionStanding", .mapping es => some (.factionStanding (filledField? "Faction" es))
  | .text "JournalEntry", _ => some .journalEntry
  | .text "QuestStageDescription", .mapping es => some (.stageDescription (localizedTexts es))
  | .text word, _ => (Ending.ofWord? word).map .ending
  | _, _ => none

/-- What a bare text does: it can end the flow or write into the journal. -/
def ofWord (s : String) : Effect :=
  match Ending.ofWord? s with
  | some how => .ending how
  | none => if s = "JournalEntry" then .journalEntry else .unrecognized

/-- What an action does: a bare text tells it, and of a mapping the first telling entry. -/
def ofValue : Value → Effect
  | .text s => ofWord s
  | .mapping entries => (entries.findSome? fun (k, v) => ofEntry? k v).getD .unrecognized
  | _ => .unrecognized

/-- The entities that an action mentions. -/
def references : Effect → List Reference
  | .itemsGained items => Requirement.references.mentions .item items "ItemsGained"
  | .itemsLost items => Requirement.references.mentions .item items "ItemsLost"
  | .factionStanding f => Requirement.references.mention .faction f "FactionStanding"
  | _ => []

end Effect

namespace Action

/-- The action that a value in a document is. -/
def ofValue (v : Value) : Action := ⟨v, .ofValue v⟩

/-- The entities that an action mentions. -/
def references (a : Action) : List Reference := a.effect.references

/-- How the action ends the flow, if it does. -/
def ending? (a : Action) : Option Ending :=
  match a.effect with
  | .ending how => some how
  | _ => none

/-- Whether the action writes into the journal. -/
def isJournalEntry (a : Action) : Bool := a.effect == .journalEntry

/-- Whether the action describes the stage of the quest. -/
def isStageDescription (a : Action) : Bool :=
  match a.effect with
  | .stageDescription _ => true
  | _ => false

/-- The description of the stage in a locale; empty if there is none. -/
def stageText (a : Action) (locale : String) : String :=
  match a.effect with
  | .stageDescription texts => (texts.lookup locale).getD ""
  | _ => ""

end Action

/-! ## Payloads that were read before -/

/-- A condition or an action. -/
inductive Payload where
  | condition (c : Condition)
  | action (a : Action)
  deriving DecidableEq, Repr

namespace Payload

/-- What a reader of payloads is given. -/
inductive Given where
  /-- a value of a document -/
  | value (v : Value)
  /-- a payload that was read before -/
  | payload (p : Payload)
  deriving DecidableEq, Repr

/-- The value that a payload goes back into a document as. -/
def raw : Payload → Value
  | .condition c => c.raw
  | .action a => a.raw

/-- Reads a condition; what was read before is taken as it is. -/
def readCondition : Given → Payload
  | .value v => .condition (.ofValue v)
  | .payload p => p

/-- Reads an action; what was read before is taken as it is. -/
def readAction : Given → Payload
  | .value v => .action (.ofValue v)
  | .payload p => p

end Payload
end QuestFlow

import QuestFlow.Quest.Node

/-!
# Nodes in documents

The node type selects the variant, and the variant the fields that are read.  The type is the
value under `NodeType` if there is such an entry, even if it is null, and else the one under
`node_type`; if that is no text, no variant can be told and the node is refused as a whole.

`Node.readAs` reads a node as a given variant, `Node.read` as the variant that its type selects, and
`Node.entries` is what a node is written as.
-/

namespace QuestFlow

/-! ## Fields -/

def idField : Spelled := ⟨"NodeID", "node_id"⟩
def typeField : Spelled := ⟨"NodeType", "node_type"⟩
def partnerField : Spelled := ⟨"ConversationPartner", "conversation_partner"⟩
def messagesField : Spelled := ⟨"Messages", "messages"⟩
def actionsField : Spelled := ⟨"Actions", "action_list"⟩
def progressorsField : Spelled := ⟨"QuestProgressors", "quest_progressors"⟩
def requiredField : Spelled := ⟨"ConditionsRequired", "conditions_required"⟩
def optionsField : Spelled := ⟨"Options", "option_list"⟩
def ifTrueField : Spelled := ⟨"NextNodesIfTrue", "next_nodes_if_true"⟩
def ifFalseField : Spelled := ⟨"NextNodesIfFalse", "next_nodes_if_false"⟩
def strayNextField : Spelled := ⟨"NextNodes", "misplaced_next_nodes"⟩
def strayIfTrueField : Spelled := ⟨"NextNodesIfTrue", "misplaced_if_true"⟩
def strayIfFalseField : Spelled := ⟨"NextNodesIfFalse", "misplaced_if_false"⟩
def strayOptionsField : Spelled := ⟨"Options", "misplaced_option_list"⟩

/-- The fields of a flat body that all flat variants share. -/
def FlatEdges.fields : List Spelled :=
  [nextField, strayIfTrueField, strayIfFalseField, strayOptionsField]

/-- The fields of a speech. -/
def Speech.fields : List Spelled := [partnerField, speakerField, textField]

/-- The fields that a variant has besides those of every node, in the order in which they are
read. -/
def Variant.fields : Variant → List Spelled
  | .entryPoint => FlatEdges.fields ++ [typeField]
  | .actions => FlatEdges.fields ++ [typeField, actionsField]
  | .dialog => FlatEdges.fields ++ typeField :: Speech.fields ++ [messagesField]
  | .questProgress => FlatEdges.fields ++ [typeField, progressorsField]
  | .decision => typeField :: Speech.fields ++ [optionsField, strayNextField]
  | .conditionBranch => [typeField, requiredField, ifTrueField, ifFalseField, strayNextField]
  | .unmodelled => [typeField, nextField, ifTrueField, ifFalseField, optionsField]

/-! ## Reading -/

/-- Reads the edges of a flat body. -/
def FlatEdges.read (es : Entries) : Checked FlatEdges :=
  ((((nextField.optional readTargets [] es).map FlatEdges.mk).seq
    (strayIfTrueField.optional (Value.readNullable readTargets) none es)).seq
    (strayIfFalseField.optional (Value.readNullable readTargets) none es)).seq
    (strayOptionsField.optional (Value.readNullable readOptions) none es)

/-- Reads a speech. -/
def Speech.read (es : Entries) : Checked Speech :=
  (((partnerField.optional Value.readText "" es).map Speech.mk).seq
    (speakerField.optional Value.readText "" es)).seq
    (textField.optional (Value.readNullable Localized.read) none es)

/-- Reads the node type of a variant that has only one: it must be that one, or absent. -/
def readOnlyType (variant : Variant) (es : Entries) : Checked String :=
  typeField.optional (Value.readOneOf variant.tag []) variant.tag es

/-- Reads the node type of a decision. -/
def DecisionType.read (es : Entries) : Checked DecisionType :=
  (typeField.optional
    (Value.readOneOf DecisionType.decision.text [DecisionType.playerDialog.text])
    DecisionType.decision.text es).map fun t =>
      if t = DecisionType.playerDialog.text then .playerDialog else .decision

/-- Reads the part of a node that depends on its variant. -/
def Body.read : Variant → Entries → Checked Body
  | .entryPoint, es =>
    ((FlatEdges.read es).map fun edges _ => .entryPoint edges).seq (readOnlyType .entryPoint es)
  | .actions, es =>
    (((FlatEdges.read es).map fun edges _ list => .actions edges list).seq
      (readOnlyType .actions es)).seq
      (actionsField.optional readActions [] es)
  | .dialog, es =>
    ((((FlatEdges.read es).map fun edges _ speech messages => .dialog edges speech messages).seq
      (readOnlyType .dialog es)).seq
      (Speech.read es)).seq
      (messagesField.optional (Value.readList DialogMessage.read) [] es)
  | .questProgress, es =>
    (((FlatEdges.read es).map fun edges _ progressors => .questProgress edges progressors).seq
      (readOnlyType .questProgress es)).seq
      (progressorsField.optional (Value.readList Value.readText) [] es)
  | .decision, es =>
    ((((DecisionType.read es).map Body.decision).seq
      (Speech.read es)).seq
      (optionsField.optional readOptions [] es)).seq
      (strayNextField.optional readTargets [] es)
  | .conditionBranch, es =>
    (((((readOnlyType .conditionBranch es).map fun _ => Body.conditionBranch).seq
      (requiredField.optional (Value.readNullable Value.readText) none es)).seq
      (ifTrueField.optional readTargets [] es)).seq
      (ifFalseField.optional readTargets [] es)).seq
      (strayNextField.optional readTargets [] es)
  | .unmodelled, es =>
    (((((typeField.required Value.readText es).map Body.unmodelled).seq
      (nextField.optional readTargets [] es)).seq
      (ifTrueField.optional readTargets [] es)).seq
      (ifFalseField.optional readTargets [] es)).seq
      (optionsField.optional readOptions [] es)

namespace Node

/-- The fields of a node of the given variant. -/
def fieldsOf (variant : Variant) : List Spelled := idField :: conditionsField :: variant.fields

/-- Reads the entries of a node as the given variant. -/
def readEntries (variant : Variant) (es : Entries) : Checked Node :=
  ((((idField.required Value.readInt es).map Node.mk).seq
    (conditionsField.optional readConditions [] es)).seq
    (Body.read variant es)).seq
    (leftOver (fieldsOf variant) es)

/-- Reads a node as the given variant, whatever type it gives. -/
def readAs (variant : Variant) : Value → Checked Node :=
  record variant.recordName (readEntries variant)

/-- The node type that a value gives: the entry under the label, even a null one, or the one under
the plain name. -/
def typeOf? : Value → Option String
  | .mapping es => match typeField.find es with
    | some (_, .text t) => some t
    | _ => none
  | _ => none

/-- Reads a node as the variant that its type selects. -/
def read (v : Value) : Checked Node :=
  match typeOf? v with
  | some t => (readAs (.ofType t) v).under (.variant (Variant.ofType t).tag)
  | none => .fail .unknownVariant

end Node

/-! ## Writing -/

/-- A value that may be absent. -/
def writeNullable {α : Type} (write : α → Value) : Option α → Value
  | some a => write a
  | none => .null

/-- Writes a list of options. -/
def writeOptions (nulls : Nulls) (os : List DialogOption) : Value := .list (os.map (·.write nulls))

/-- The entries of a flat body. -/
def FlatEdges.entries (nulls : Nulls) (e : FlatEdges) : Fields :=
  [("NextNodes", .ofInts e.next),
    ("NextNodesIfTrue", writeNullable .ofInts e.strayIfTrue),
    ("NextNodesIfFalse", writeNullable .ofInts e.strayIfFalse),
    ("Options", writeNullable (writeOptions nulls) e.strayOptions)]

/-- The entries of a speech. -/
def Speech.entries (nulls : Nulls) (s : Speech) : Fields :=
  [("ConversationPartner", .text s.partner), ("Speaker", .text s.speaker),
    ("Text", writeNullable (Localized.write nulls) s.text)]

/-- The entries of a body, the node type among them. -/
def Body.entries (nulls : Nulls) (b : Body) : Fields :=
  let type := ("NodeType", Value.text b.nodeType)
  match b with
  | .entryPoint e => e.entries nulls ++ [type]
  | .actions e list => e.entries nulls ++ [type, ("Actions", writeActions list)]
  | .dialog e speech messages =>
    e.entries nulls ++ type :: speech.entries nulls ++
      [("Messages", .list (messages.map (·.write nulls)))]
  | .questProgress e progressors =>
    e.entries nulls ++ [type, ("QuestProgressors", .ofTexts progressors)]
  | .decision _ speech options strayNext =>
    type :: speech.entries nulls ++
      [("Options", writeOptions nulls options), ("NextNodes", .ofInts strayNext)]
  | .conditionBranch required ifTrue ifFalse strayNext =>
    [type, ("ConditionsRequired", .ofText? required), ("NextNodesIfTrue", .ofInts ifTrue),
      ("NextNodesIfFalse", .ofInts ifFalse), ("NextNodes", .ofInts strayNext)]
  | .unmodelled _ next ifTrue ifFalse options =>
    [type, ("NextNodes", .ofInts next), ("NextNodesIfTrue", .ofInts ifTrue),
      ("NextNodesIfFalse", .ofInts ifFalse), ("Options", writeOptions nulls options)]

namespace Node

/-- The entries that a node is written as. -/
def entries (nulls : Nulls) (n : Node) : Fields :=
  [("NodeID", .int n.id), ("Conditions", writeConditions n.conditions)] ++
    n.body.entries nulls ++ n.extra

/-- Writes a node. -/
def write (nulls : Nulls) (n : Node) : Value := writeRecord nulls (n.entries nulls)

end Node

/-! ## What nodes of several variants have

A record can also be read for the fields that its variant shares with others, whatever the variant
is; all other entries are left over then, the node type among them.
-/

/-- The fields that every node has, whatever its variant. -/
structure BareNode where
  id : Int
  conditions : List Condition
  extra : Extra
  deriving DecidableEq, Repr

namespace BareNode

/-- Reads a node without regard to its variant: only its ID and its conditions are taken. -/
def read : Value → Checked BareNode :=
  record "BaseNode" fun es =>
    (((idField.required Value.readInt es).map BareNode.mk).seq
      (conditionsField.optional readConditions [] es)).seq
      (leftOver [idField, conditionsField] es)

/-- The entries that such a node is written as. -/
def entries (n : BareNode) : Fields :=
  [("NodeID", .int n.id), ("Conditions", writeConditions n.conditions)] ++ n.extra

end BareNode

/-- The fields that every node has which goes on through one flat list. -/
structure FlatNode where
  id : Int
  conditions : List Condition
  edges : FlatEdges
  extra : Extra
  deriving DecidableEq, Repr

namespace FlatNode

/-- Reads a node without regard to its variant: its ID, its conditions and flat edges are taken. -/
def read : Value → Checked FlatNode :=
  record "_FlatEdgesNode" fun es =>
    ((((idField.required Value.readInt es).map FlatNode.mk).seq
      (conditionsField.optional readConditions [] es)).seq
      (FlatEdges.read es)).seq
      (leftOver (idField :: conditionsField :: FlatEdges.fields) es)

/-- The entries that such a node is written as. -/
def entries (nulls : Nulls) (n : FlatNode) : Fields :=
  [("NodeID", .int n.id), ("Conditions", writeConditions n.conditions)] ++
    n.edges.entries nulls ++ n.extra

/-- All edge lists of the node: the flat one, and those that it should not have. -/
def declaredFields (n : FlatNode) : List EdgeField :=
  ⟨.next, n.edges.next⟩ :: n.edges.strayFields

end FlatNode
end QuestFlow

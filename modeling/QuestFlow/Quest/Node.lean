import QuestFlow.Quest.Dialog

/-!
# Nodes

A quest is a graph of nodes, and the type of a node says where its edges may be written:

* an entry point, a list of actions, a dialog and a progress marker go on through one flat list;
* a condition branch has one list for true and one for false;
* a decision has a list in each of its options;
* a node of a type that is not modelled may use all of these.

A document can have an edge list where the type does not allow one.  Such a list is *stray*: it is
kept and reported, but it is never part of the graph.  `Node.legalFields` and `Node.strayFields`
give the two sorts of lists, each with the label that messages use.
-/

namespace QuestFlow

/-! ## Variants -/

/-- The variants of a node. -/
inductive Variant where
  | entryPoint | actions | dialog | decision | conditionBranch | questProgress | unmodelled
  deriving DecidableEq, Repr

namespace Variant

/-- All variants. -/
def all : List Variant :=
  [.entryPoint, .actions, .dialog, .decision, .conditionBranch, .questProgress, .unmodelled]

/-- The tag of a variant in the place of a fault. -/
def tag : Variant → String
  | .entryPoint => "EntryPoint"
  | .actions => "Actions"
  | .dialog => "Dialog"
  | .decision => "Decision"
  | .conditionBranch => "ConditionBranch"
  | .questProgress => "QuestProgress"
  | .unmodelled => "Opaque"

/-- The name of the record of a variant. -/
def recordName (v : Variant) : String := v.tag ++ "Node"

/-- The variant that a node type selects. -/
def ofType (nodeType : String) : Variant :=
  if nodeType = "EntryPoint" then .entryPoint
  else if nodeType = "Actions" then .actions
  else if nodeType = "Dialog" then .dialog
  else if nodeType = "Decision" ∨ nodeType = "PlayerDecisionDialog" then .decision
  else if nodeType = "ConditionBranch" then .conditionBranch
  else if nodeType = "QuestProgress" then .questProgress
  else .unmodelled

end Variant

/-- The two node types of a decision. -/
inductive DecisionType where
  | decision | playerDialog
  deriving DecidableEq, Repr

/-- The type as documents write it. -/
def DecisionType.text : DecisionType → String
  | .decision => "Decision"
  | .playerDialog => "PlayerDecisionDialog"

/-! ## What a node holds -/

/-- The edges of a node that goes on through one flat list, and the edge lists it should not have.
-/
structure FlatEdges where
  next : List Int := []
  strayIfTrue : Option (List Int) := none
  strayIfFalse : Option (List Int) := none
  strayOptions : Option (List DialogOption) := none
  deriving DecidableEq, Repr

/-- Who talks to whom, and what is said first. -/
structure Speech where
  partner : String := ""
  speaker : String := ""
  text : Option Localized := none
  deriving DecidableEq, Repr

/-- The part of a node that depends on its variant. -/
inductive Body where
  | entryPoint (edges : FlatEdges)
  | actions (edges : FlatEdges) (list : List Action)
  | dialog (edges : FlatEdges) (speech : Speech) (messages : List DialogMessage)
  | decision (type : DecisionType) (speech : Speech) (options : List DialogOption)
      (strayNext : List Int)
  | conditionBranch (required : Option String) (ifTrue ifFalse strayNext : List Int)
  | questProgress (edges : FlatEdges) (progressors : List String)
  | unmodelled (type : String) (next ifTrue ifFalse : List Int) (options : List DialogOption)
  deriving DecidableEq, Repr

/-- A node of a quest. -/
structure Node where
  id : Int
  conditions : List Condition
  body : Body
  extra : Extra
  deriving DecidableEq, Repr

/-- The variant of a body. -/
def Body.variant : Body → Variant
  | .entryPoint .. => .entryPoint
  | .actions .. => .actions
  | .dialog .. => .dialog
  | .decision .. => .decision
  | .conditionBranch .. => .conditionBranch
  | .questProgress .. => .questProgress
  | .unmodelled .. => .unmodelled

/-- The node type of a body, as documents write it. -/
def Body.nodeType : Body → String
  | .decision type .. => type.text
  | .unmodelled type .. => type
  | b => b.variant.tag

/-! ## Edges -/

/-- Which list of a node an edge stands in. -/
inductive EdgeLabel where
  | next | ifTrue | ifFalse
  /-- the list of an option, counted from one -/
  | option (number : Nat)
  deriving DecidableEq, Repr

/-- The label in messages. -/
def EdgeLabel.text : EdgeLabel → String
  | .next => "NextNodes"
  | .ifTrue => "NextNodesIfTrue"
  | .ifFalse => "NextNodesIfFalse"
  | .option number => "option " ++ toString number ++ " NextNodes"

/-- A list of edges with its label. -/
structure EdgeField where
  label : EdgeLabel
  targets : List Int
  deriving DecidableEq, Repr

/-- The edge lists of options, the first of which has the given number. -/
def optionFieldsFrom (number : Nat) : List DialogOption → List EdgeField
  | [] => []
  | o :: os => ⟨.option number, o.next⟩ :: optionFieldsFrom (number + 1) os

/-- The edge lists of options. -/
def optionFields (options : List DialogOption) : List EdgeField := optionFieldsFrom 1 options

/-- The edge list, unless it is empty. -/
def filledField (label : EdgeLabel) (targets : List Int) : List EdgeField :=
  if targets.isEmpty then [] else [⟨label, targets⟩]

namespace FlatEdges

/-- The edge lists that a flat node should not have: those that hold an edge. -/
def strayFields (e : FlatEdges) : List EdgeField :=
  filledField .ifTrue (e.strayIfTrue.getD []) ++ filledField .ifFalse (e.strayIfFalse.getD []) ++
    (optionFields (e.strayOptions.getD [])).filter fun f => !f.targets.isEmpty

end FlatEdges

namespace Body

/-- The edges of a flat body. -/
def flatEdges? : Body → Option FlatEdges
  | .entryPoint e | .actions e _ | .dialog e _ _ | .questProgress e _ => some e
  | _ => none

/-- The edge lists that the variant allows, in document order. -/
def legalFields : Body → List EdgeField
  | .entryPoint e | .actions e _ | .dialog e _ _ | .questProgress e _ => [⟨.next, e.next⟩]
  | .decision _ _ options _ => optionFields options
  | .conditionBranch _ ifTrue ifFalse _ => [⟨.ifTrue, ifTrue⟩, ⟨.ifFalse, ifFalse⟩]
  | .unmodelled _ next ifTrue ifFalse options =>
    ⟨.next, next⟩ ::
      (filledField .ifTrue ifTrue ++ filledField .ifFalse ifFalse ++ optionFields options)

/-- The edge lists that the document has although the variant does not allow them. -/
def strayFields : Body → List EdgeField
  | .entryPoint e | .actions e _ | .dialog e _ _ | .questProgress e _ => e.strayFields
  | .decision _ _ _ strayNext => filledField .next strayNext
  | .conditionBranch _ _ _ strayNext => filledField .next strayNext
  | .unmodelled .. => []

/-- The options that the variant allows. -/
def options : Body → List DialogOption
  | .decision _ _ options _ => options
  | .unmodelled _ _ _ _ options => options
  | _ => []

/-- The options that the document has although the variant does not allow them. -/
def strayOptions : Body → List DialogOption
  | .entryPoint e | .actions e _ | .dialog e _ _ | .questProgress e _ => e.strayOptions.getD []
  | _ => []

/-- The actions; only an actions node has any. -/
def actionList : Body → List Action
  | .actions _ list => list
  | _ => []

/-- Who talks; only dialogs and decisions have it. -/
def speech? : Body → Option Speech
  | .dialog _ speech _ => some speech
  | .decision _ speech _ _ => some speech
  | _ => none

/-- The messages; only a dialog has any. -/
def messages : Body → List DialogMessage
  | .dialog _ _ messages => messages
  | _ => []

end Body

namespace Node

def variant (n : Node) : Variant := n.body.variant
def nodeType (n : Node) : String := n.body.nodeType

/-- The edge lists that the node may have. -/
def legalFields (n : Node) : List EdgeField := n.body.legalFields

/-- The edge lists that it should not have. -/
def strayFields (n : Node) : List EdgeField := n.body.strayFields

/-- All edge lists of the node. -/
def declaredFields (n : Node) : List EdgeField := n.legalFields ++ n.strayFields

/-- The targets of the edges in the graph. -/
def outgoing (n : Node) : List Int := n.legalFields.flatMap (·.targets)

/-- The targets of all edges in the document. -/
def declaredTargets (n : Node) : List Int := n.declaredFields.flatMap (·.targets)

def options (n : Node) : List DialogOption := n.body.options
def strayOptions (n : Node) : List DialogOption := n.body.strayOptions

/-- All options of the node. -/
def declaredOptions (n : Node) : List DialogOption := n.options ++ n.strayOptions

def actions (n : Node) : List Action := n.body.actionList

/-- The actions that end the flow, by the way they end it. -/
def endings (n : Node) : List Ending := n.actions.filterMap (·.ending?)

/-- Whether the flow ends here. -/
def isTerminal (n : Node) : Bool := !n.endings.isEmpty

def isEntryPoint (n : Node) : Bool := n.variant == .entryPoint
def isActions (n : Node) : Bool := n.variant == .actions

/-- Whether an action of the node writes into the journal. -/
def writesJournal (n : Node) : Bool := n.actions.any (·.isJournalEntry)

/-- Whether an action of the node describes the stage. -/
def describesStage (n : Node) : Bool := n.actions.any (·.isStageDescription)

/-- The conditions of the node and of all its options. -/
def allConditions (n : Node) : List Condition :=
  n.conditions ++ n.declaredOptions.flatMap (·.conditions)

end Node
end QuestFlow

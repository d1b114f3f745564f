import QuestFlow.Catalog
import QuestFlow.Issue
import QuestFlow.Quest.Node

/-!
# What can be wrong with a quest

Each rule reports problems of its own.  A problem carries what its message names, and the wording of
all of them is in `Problem.message`; a finding is a problem at a node, or of the quest as a whole.
-/

namespace QuestFlow

/-- A violation of a rule about one quest. -/
inductive Problem where
  /-- an earlier node has the same ID -/
  | repeatedId
  /-- an edge leads to an ID that no node has -/
  | missingTarget (label : EdgeLabel) (target : Int)
  /-- an edge leads back to its own node -/
  | selfEdge (label : EdgeLabel)
  /-- an edge list has the same target earlier on -/
  | repeatedEdge (label : EdgeLabel) (target : Int)
  /-- no edge list at all leads to the node -/
  | noIncoming
  | noEntryPoint
  /-- the flow goes on after it has ended -/
  | endingContinues
  /-- the flow stops without having ended -/
  | flowStops
  | manyEndings
  /-- a decision has an edge list outside its options -/
  | decisionEdges (nodeType : String)
  /-- an option leads nowhere -/
  | deadOption (number : Nat)
  /-- a condition branch has a flat edge list -/
  | branchEdges
  | branchUnconditional
  /-- a condition branch leads nowhere -/
  | deadBranch
  /-- a flat node has an edge list that only other variants may have -/
  | strayEdges (nodeType : String) (label : EdgeLabel)
  | cycle
  | unknownPartner (id : String)
  | unknownSpeaker (id : String)
  | unknownMessageSpeaker (id : String)
  | unknownReference (reference : Reference)
  /-- no actions node can be reached from an entry point -/
  | noActions
  /-- the first actions node of a flow leaves the journal alone -/
  | startWithoutJournal
  /-- the first actions node of a flow does not describe the stage -/
  | startWithoutStage
  /-- no actions node of a final chain writes into the journal -/
  | endWithoutJournal
  /-- no edge of the graph leads to the node -/
  | unreferenced
  deriving DecidableEq, Repr

/-- The message of a problem. -/
def Problem.message : Problem → String
  | .repeatedId => "duplicate NodeID"
  | .missingTarget label target =>
    label.text ++ " references non-existent NodeID " ++ toString target
  | .selfEdge label => "node references itself in " ++ label.text
  | .repeatedEdge label target =>
    "duplicate edge to NodeID " ++ toString target ++ " in " ++ label.text
  | .noIncoming => "non-EntryPoint node has no incoming connections"
  | .noEntryPoint => "quest must have at least one EntryPoint node"
  | .endingContinues => "terminal Actions node must not have outgoing edges"
  | .flowStops =>
    "non-terminal Actions node must have outgoing edges " ++
      "(quest flow ends with unspecified behaviour)"
  | .manyEndings => "Actions node has more than one terminal action"
  | .decisionEdges nodeType =>
    nodeType ++ " must not have top-level NextNodes; use NextNodes in each option instead"
  | .deadOption number => "option " ++ toString number ++ " must have NextNodes"
  | .branchEdges =>
    "ConditionBranch must not have top-level NextNodes; " ++
      "use NextNodesIfTrue and NextNodesIfFalse instead"
  | .branchUnconditional => "ConditionBranch must have at least one condition"
  | .deadBranch =>
    "ConditionBranch must have at least one of NextNodesIfTrue or NextNodesIfFalse"
  | .strayEdges nodeType label =>
    nodeType ++ " must not have " ++ label.text ++ "; use NextNodes instead"
  | .cycle => "quest contains a cycle (loops are not allowed)"
  | .unknownPartner id => "unknown conversation partner: " ++ id
  | .unknownSpeaker id => "unknown speaker: " ++ id
  | .unknownMessageSpeaker id => "unknown speaker in message: " ++ id
  | .unknownReference r => "unknown " ++ r.kind.noun ++ " in " ++ r.context ++ ": " ++ r.id
  | .noActions => "EntryPoint flow has no Actions node"
  | .startWithoutJournal => "first Actions node in flow must have JournalEntry action"
  | .startWithoutStage => "first Actions node in flow must have QuestStageDescription action"
  | .endWithoutJournal => "terminal Actions chain must contain a JournalEntry action"
  | .unreferenced => "NodeID is never referenced by any other node"

/-- The ID that the message of a problem names by its digits, if it does so.  The number of an
option never has too many of them. -/
def Problem.target? : Problem → Option Int
  | .missingTarget _ target | .repeatedEdge _ target => some target
  | _ => none

/-- A problem and the node that has it; none if the quest as a whole has it. -/
structure Finding where
  problem : Problem
  node : Option Int := none
  deriving DecidableEq, Repr

namespace Finding

/-- The issue that reports a finding. -/
def issue (f : Finding) : Issue := { message := f.problem.message, node := f.node }

/-- The issues that report findings, if all of their messages can be written. -/
def writtenIssues (fs : List Finding) : Except TooManyDigits (List Issue) :=
  IntegerText.naming (fs.filterMap (·.problem.target?)) (fs.map (·.issue))

end Finding

/-- The problem, at the node, if the condition holds. -/
def Node.findIf (n : Node) (wrong : Bool) (p : Problem) : List Finding :=
  if wrong then [⟨p, some n.id⟩] else []

end QuestFlow

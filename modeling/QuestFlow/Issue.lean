import QuestFlow.Document.Value
import QuestFlow.Number.Written

/-!
# Issues

An issue is a line of a report: a message, and the quest and the node that it is about as far as
it is about one.  `Issue.line` is the form for people, `Issue.toValue` the form for programs.  A
line names the node, so it can be written only if the ID of the node can; for programs the ID stays
a number.
-/

namespace QuestFlow

/-- A violation of a rule, ready to be reported. -/
structure Issue where
  message : String
  node : Option Int := none
  quest : Option String := none
  deriving DecidableEq, Repr

namespace Issue

/-- The issue as one of the given quest. -/
def inQuest (quest : String) (i : Issue) : Issue := { i with quest := some quest }

/-- Whom a line names that belongs to no quest. -/
def crossQuestLabel : String := "CROSS-QUEST"

/-- The line for people: quest and node in front, or the label of the whole repository.  An empty
quest ID counts as none. -/
def line (i : Issue) : String :=
  let node := match i.node with
    | some n => some ("Node " ++ toString n)
    | none => none
  match i.quest.filter (· != ""), node with
  | some quest, some node => "[" ++ quest ++ "] " ++ node ++ ": " ++ i.message
  | some quest, none => "[" ++ quest ++ "]: " ++ i.message
  | none, some node => node ++ ": " ++ i.message
  | none, none => "[" ++ crossQuestLabel ++ "]: " ++ i.message

/-- The lines about issues, if all of them can be written. -/
def writtenLines (issues : List Issue) : Except TooManyDigits (List String) :=
  IntegerText.naming (issues.filterMap (·.node)) (issues.map (·.line))

/-- The form for programs; what the issue is not about is left out. -/
def toValue (i : Issue) : Value :=
  .ofFields ((match i.quest with | some q => [("questId", .text q)] | none => []) ++
    (match i.node with | some n => [("nodeId", .int n)] | none => []) ++
    [("message", .text i.message)])

end Issue
end QuestFlow

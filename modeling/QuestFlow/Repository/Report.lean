import QuestFlow.Issue
import QuestFlow.Path

/-!
# Reports

The outcome of checking a repository: how many quests were loaded, the files that could not be
loaded, the issues of single quests, and those of all quests together.  A file that could not be
loaded is reported, but takes no part in any rule.
-/

namespace QuestFlow

/-- A file that should hold a quest and does not. -/
structure BrokenFile where
  path : Path
  reason : String
  deriving DecidableEq, Repr

namespace BrokenFile

/-- The line for people. -/
def line (b : BrokenFile) : String :=
  "[LOAD ERROR]: failed to load " ++ b.path.text ++ ": " ++ b.reason

/-- The form for programs. -/
def toValue (b : BrokenFile) : Value :=
  .ofFields [("path", .text b.path.text), ("message", .text b.reason)]

end BrokenFile

/-- Serves programs: whether there is no issue, and the issues. -/
def validationValue (issues : List Issue) : Value :=
  .ofFields [("valid", .bool issues.isEmpty), ("errors", .list (issues.map (·.toValue)))]

/-- The outcome of checking a repository. -/
structure Report where
  /-- as counted by whoever fills the report in, who may mark an unknown count by a negative
  number -/
  questsChecked : Int := 0
  brokenFiles : List BrokenFile := []
  /-- in load order, each with the ID of its quest -/
  questIssues : List Issue := []
  sharedIssues : List Issue := []
  deriving DecidableEq, Repr

namespace Report

/-- All issues: first those of single quests. -/
def issues (r : Report) : List Issue := r.questIssues ++ r.sharedIssues

/-- Issues and broken files together. -/
def count (r : Report) : Nat :=
  r.brokenFiles.length + r.questIssues.length + r.sharedIssues.length

/-- Whether anything was reported. -/
def hasIssues (r : Report) : Bool := r.count > 0

/-- Zero for a clean report and one for any other. -/
def exitCode (r : Report) : Nat := if r.hasIssues then 1 else 0

/-- The line that sums a report up. -/
def summary (r : Report) : String :=
  "Checked " ++ toString r.questsChecked ++ " quests, found " ++ toString r.count ++ " issues."

/-- The lines for people: broken files first. -/
def lines (r : Report) : List String :=
  r.brokenFiles.map (·.line) ++ r.issues.map (·.line)

/-- The lines, if all of them can be written. -/
def writtenLines (r : Report) : Except TooManyDigits (List String) :=
  IntegerText.naming (r.issues.filterMap (·.node)) r.lines

/-- The form for programs. -/
def toValue (r : Report) : Value :=
  .ofFields [("valid", .bool (!r.hasIssues)), ("questsChecked", .int r.questsChecked),
    ("loadErrors", .list (r.brokenFiles.map (·.toValue))),
    ("errors", .list (r.issues.map (·.toValue)))]

end Report
end QuestFlow

import QuestFlow.Issue
import QuestFlow.Repository.Report
import QuestFlow.Service

/-!
# Answers for programs, read by people

A report has a form for people, which is lines, and a form for programs, which is a value.  The
value tells enough to write the lines: an issue can be read back from it (`Issue.ofValue?_toValue`),
and so can the line about a broken file (`BrokenFile.lineOf?_toValue`).  So the lines of a report
are those that its value tells, one for each member of its two lists (`Report.map_lines`).
-/

namespace QuestFlow

namespace Value

/-- The text under a key. -/
def textAt? (name : String) (v : Value) : Option String :=
  match v.field? name with
  | some (.text s) => some s
  | _ => none

/-- The integer under a key. -/
def intAt? (name : String) (v : Value) : Option Int :=
  match v.field? name with
  | some (.int n) => some n
  | _ => none

/-- The truth value under a key. -/
def flagAt? (name : String) (v : Value) : Option Bool :=
  match v.field? name with
  | some (.bool b) => some b
  | _ => none

/-- The members of the list under a key. -/
def itemsAt? (name : String) (v : Value) : Option (List Value) :=
  match v.field? name with
  | some (.list items) => some items
  | _ => none

end Value

/-- The issue that a value tells of. -/
def Issue.ofValue? (v : Value) : Option Issue :=
  (v.textAt? "message").map fun message =>
    { message, node := v.intAt? "nodeId", quest := v.textAt? "questId" }

/-- The line about the issue that a value tells of. -/
def Issue.lineOf? (v : Value) : Option String := (Issue.ofValue? v).map (·.line)

/-- The same line, stamped with a quest. -/
def Issue.lineInQuestOf? (quest : String) (v : Value) : Option String :=
  (Issue.ofValue? v).map fun i => (i.inQuest quest).line

/-- The line about the broken file that a value tells of. -/
def BrokenFile.lineOf? (v : Value) : Option String :=
  (v.textAt? "path").bind fun path => (v.textAt? "message").map fun reason =>
    "[LOAD ERROR]: failed to load " ++ path ++ ": " ++ reason

/-- The form for programs tells the whole issue. -/
theorem Issue.ofValue?_toValue (i : Issue) : Issue.ofValue? i.toValue = some i := by
  obtain ⟨message, node, quest⟩ := i
  cases node <;> cases quest <;> rfl

theorem Issue.lineOf?_toValue (i : Issue) : Issue.lineOf? i.toValue = some i.line := by
  rw [lineOf?, ofValue?_toValue]
  rfl

theorem Issue.lineInQuestOf?_toValue (i : Issue) (quest : String) :
    Issue.lineInQuestOf? quest i.toValue = some (i.inQuest quest).line := by
  rw [lineInQuestOf?, ofValue?_toValue]
  rfl

/-- The form for programs tells the whole line. -/
theorem BrokenFile.lineOf?_toValue (b : BrokenFile) :
    BrokenFile.lineOf? b.toValue = some b.line := rfl

namespace Report

/-- **The lines of a report** are those that its value tells: first the broken files, then the
issues. -/
theorem map_lines (r : Report) : r.lines.map some =
    (r.brokenFiles.map (·.toValue)).map BrokenFile.lineOf? ++
      (r.issues.map (·.toValue)).map Issue.lineOf? := by
  simp only [lines, List.map_append, List.map_map, Function.comp_def, BrokenFile.lineOf?_toValue,
    Issue.lineOf?_toValue]

theorem length_lines (r : Report) : r.lines.length = r.count := by
  simp only [lines, issues, count, List.length_append, List.length_map]
  omega

/-- A report without anything to report has no lines. -/
theorem hasIssues_eq_false_iff (r : Report) : r.hasIssues = false ↔ r.lines = [] := by
  rw [← List.length_eq_zero_iff, length_lines, hasIssues]
  simp

end Report

namespace Response

/-- The truth value under a key of the body. -/
def flagAt? (name : String) : Response → Option Bool
  | .body v => v.flagAt? name
  | _ => none

/-- The members of the list under a key of the body. -/
def itemsAt? (name : String) : Response → Option (List Value)
  | .body v => v.itemsAt? name
  | _ => none

end Response
end QuestFlow

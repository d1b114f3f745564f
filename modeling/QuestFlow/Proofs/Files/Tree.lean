import QuestFlow.Files.Change

/-!
# What a change leaves at each place

A tree that is changed at one place has there what was put, and elsewhere what it had.
-/

namespace QuestFlow.FileTree

variable {t : FileTree} {place other : Place} {e : FileEntry}

/-- Above the place where the program runs there are no files. -/
theorem isPrefixOf_of_file {content : Content} (h : t.entry? place = some (.file content)) :
    place.isPrefixOf t.here = false := by
  unfold FileTree.entry? at h
  split at h
  · cases h
  · rename_i hoff
    exact Bool.eq_false_iff.2 hoff

/-- Nor is there nothing. -/
theorem isPrefixOf_of_absent (h : t.entry? place = none) : place.isPrefixOf t.here = false := by
  unfold FileTree.entry? at h
  split at h
  · cases h
  · rename_i hoff
    exact Bool.eq_false_iff.2 hoff

/-- What was put at a place is there, unless the program runs below it. -/
theorem entry?_put_self (hoff : place.isPrefixOf t.here = false) :
    FileTree.entry? (t.put place e) place = some e := by
  simp only [FileTree.entry?, put, hoff, Bool.false_eq_true, if_false, lookup_setEntry_self]

/-- What is at other places stays. -/
theorem entry?_put_of_ne (hne : other ≠ place) :
    FileTree.entry? (t.put place e) other = t.entry? other := by
  simp only [FileTree.entry?, put, lookup_setEntry_of_ne hne]

/-- A log file that gets an entry holds it behind all others. -/
theorem entry?_appendLog {content : Content} (h : t.entry? place = some (.file content))
    (entry : Value) :
    FileTree.entry? (t.appendLog place entry) place = some (.file (content.append entry)) := by
  rw [appendLog, h]
  exact entry?_put_self (isPrefixOf_of_file h)

end QuestFlow.FileTree

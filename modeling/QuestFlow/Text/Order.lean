/-!
# The order of texts

Texts are ordered by the code points of their characters, and lists of texts (the components of a
path) by their first difference.  The first is the order that `String` already carries; this module
sorts by it and takes it to lists.
-/

namespace QuestFlow.Text

/-- The texts in rising order. -/
def sorted (ts : List String) : List String := ts.mergeSort fun a b => decide (a ≤ b)

/-- The texts in rising order, each once. -/
def sortedDistinct (ts : List String) : List String := sorted ts.eraseDups

/-- Whether one list of texts comes before another or equals it: the first difference decides, and a
list comes before those that go on where it ends. -/
def componentsLE : List String → List String → Bool
  | [], _ => true
  | _ :: _, [] => false
  | a :: as, b :: bs => if a = b then componentsLE as bs else decide (a ≤ b)

/-- Sorting keeps the members. -/
theorem mem_sorted {t : String} {ts : List String} : t ∈ sorted ts ↔ t ∈ ts := by
  simp [sorted]

/-- Sorting and dropping repeats keeps the members. -/
theorem mem_sortedDistinct {t : String} {ts : List String} :
    t ∈ sortedDistinct ts ↔ t ∈ ts := by
  simp [sortedDistinct, mem_sorted]

end QuestFlow.Text

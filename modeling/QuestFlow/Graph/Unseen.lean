/-!
# What a search has not seen yet

A search over a finite table ends because it never looks at anything twice.  The measure of all
searches here is the number of entries of a fixed list that are not among the IDs already seen:
`unseen_lt` says that it shrinks when an ID of the list is seen for the first time, and `unseen_le`
that it never grows; so a search may count what it still has to do as well (`measure_of_shorter`).
-/

namespace QuestFlow

/-- How many entries of `all` are not among `seen`. -/
def unseen (all seen : List Int) : Nat := (all.filter fun x => !seen.contains x).length

/-- Seeing more leaves no more unseen. -/
theorem unseen_le {seen seen' : List Int} (all : List Int) (sub : ∀ x ∈ seen, x ∈ seen') :
    unseen all seen' ≤ unseen all seen := by
  induction all with
  | nil => simp [unseen]
  | cons a all ih =>
    simp only [unseen, List.filter_cons] at *
    by_cases h : a ∈ seen
    · simpa [h, sub a h] using ih
    · by_cases h' : a ∈ seen'
      · simp only [List.contains_eq_mem, h', decide_true, Bool.not_true, Bool.false_eq_true,
          if_false, h, decide_false, Bool.not_false, if_true, List.length_cons]
        simp only [List.contains_eq_mem] at ih
        omega
      · simp only [List.contains_eq_mem, h', decide_false, Bool.not_false, if_true, h,
          List.length_cons]
        simp only [List.contains_eq_mem] at ih
        omega

/-- Seeing an entry for the first time leaves fewer unseen. -/
theorem unseen_lt {all seen seen' : List Int} (sub : ∀ x ∈ seen, x ∈ seen') {x : Int}
    (mem : x ∈ all) (fresh : x ∉ seen) (now : x ∈ seen') : unseen all seen' < unseen all seen := by
  induction all with
  | nil => simp at mem
  | cons a all ih =>
    have le := unseen_le all sub
    simp only [unseen, List.filter_cons, List.contains_eq_mem] at *
    by_cases hax : a = x
    · subst hax
      simp only [now, decide_true, Bool.not_true, Bool.false_eq_true, if_false, fresh,
        decide_false, Bool.not_false, if_true, List.length_cons]
      omega
    · have lt := ih (by simpa [Ne.symm hax] using mem)
      by_cases h : a ∈ seen
      · simpa [h, sub a h] using lt
      · by_cases h' : a ∈ seen'
        · simp only [h', decide_true, Bool.not_true, Bool.false_eq_true, if_false, h,
            decide_false, Bool.not_false, if_true, List.length_cons]
          omega
        · simp only [h', decide_false, Bool.not_false, if_true, h, List.length_cons]
          omega

/-- Where nothing seen is forgotten, having less to do leaves less of the search. -/
theorem measure_of_shorter {seen seen' : List Int} (all : List Int) (sub : ∀ x ∈ seen, x ∈ seen')
    {m n : Nat} (shorter : m < n) :
    Prod.Lex (· < ·) (· < ·) (unseen all seen', m) (unseen all seen, n) := by
  rcases Nat.lt_or_eq_of_le (unseen_le all sub) with lt | eq
  · exact Prod.Lex.left _ _ lt
  · rw [eq]
    exact Prod.Lex.right _ shorter

end QuestFlow

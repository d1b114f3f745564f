import Mathlib.Data.List.Forall2
import QuestFlow.Document.Field

/-!
# What a successful reading says

A reader of a record combines many readings and succeeds when all of them do (`seq_eq_ok_iff`,
`map_eq_ok_iff`).  The lemmas here say what is then known of the single readings: a list has been
read member by member (`readList_eq_ok_iff`), and a field holds what its entry does
(`Spelled.required_eq_ok_iff`, `Spelled.optional_eq_ok_iff`), which is the one under its label if
there is one (`Spelled.optional_of_lookup`).
-/

namespace QuestFlow

variable {α : Type} {read : Value → Checked α}

/-- A list is read when each member is. -/
theorem Checked.allFrom_eq_ok_iff {start : Nat} {items : List Value} {xs : List α} :
    Checked.allFrom read start items = .ok xs ↔
      List.Forall₂ (fun v x => read v = .ok x) items xs := by
  induction items generalizing start xs with
  | nil =>
    rw [List.forall₂_nil_left_iff]
    simp [Checked.allFrom, eq_comm]
  | cons v items ih =>
    simp only [Checked.allFrom, Checked.seq_eq_ok_iff, Checked.map_eq_ok_iff,
      Checked.under_eq_ok_iff, ih, List.forall₂_cons_left_iff]
    constructor
    · rintro ⟨_, rest, ⟨x, hx, rfl⟩, hrest, rfl⟩
      exact ⟨x, rest, hx, hrest, rfl⟩
    · rintro ⟨x, rest, hx, hrest, rfl⟩
      exact ⟨_, rest, ⟨x, hx, rfl⟩, hrest, rfl⟩

namespace Value

/-- Only a list is read as one, and then member by member. -/
theorem readList_eq_ok_iff {v : Value} {xs : List α} :
    readList read v = .ok xs ↔
      ∃ items, v = .list items ∧ List.Forall₂ (fun v x => read v = .ok x) items xs := by
  cases v with
  | list items => simp [readList, Checked.allFrom_eq_ok_iff]
  | _ => simp [readList, Checked.fail]

/-- Where null is allowed, anything else is read as it would be elsewhere. -/
theorem readNullable_of_ok {v : Value} {x : α} {y : Option α} (hnull : v ≠ .null)
    (hx : read v = .ok x) (hy : readNullable read v = .ok y) : y = some x := by
  have hread : readNullable read v = (read v).map some := by
    cases v with
    | null => exact absurd rfl hnull
    | _ => rfl
  rw [hread, hx] at hy
  cases hy
  rfl

end Value

namespace Spelled

variable {s : Spelled} {es : Entries} {v : Value}

/-- An entry under the label holds the field, whatever else there is. -/
theorem find_of_lookup (hv : Value.lookup s.label es = some v) : s.find es = some (s.label, v) := by
  rw [find, hv]

/-- A field that must be there is read from the entry that holds it. -/
theorem required_eq_ok_iff {x : α} : s.required read es = .ok x ↔
    ∃ name v, s.find es = some (name, v) ∧ read v = .ok x := by
  rw [required]
  rcases s.find es with _ | ⟨name, v⟩ <;> simp

/-- So is one that has a fallback, if there is such an entry. -/
theorem optional_eq_ok_iff {fallback x : α} : s.optional read fallback es = .ok x ↔
    (∃ name v, s.find es = some (name, v) ∧ read v = .ok x) ∨
      s.find es = none ∧ x = fallback := by
  rw [optional]
  rcases s.find es with _ | ⟨name, v⟩
  · simp [eq_comm]
  · simp

theorem optional_of_lookup {fallback x : α} (hv : Value.lookup s.label es = some v)
    (hread : s.optional read fallback es = .ok x) : read v = .ok x := by
  rw [optional, find_of_lookup hv] at hread
  simpa using hread

end Spelled
end QuestFlow

import QuestFlow.Document.Fault

/-!
# Reading that reports every fault

A reader of a record does not stop at the first bad field.  `Checked α` is the outcome of reading an
`α`: the value, or the list of all faults.  It is an applicative functor and no monad: two readings
combined both take place, and if either fails the faults of both are kept, those of the left one
first.
-/

namespace QuestFlow

/-- The outcome of reading: a value, or faults. -/
inductive Checked (α : Type) where
  | ok (a : α)
  | faulty (faults : List Fault)
  deriving Repr, DecidableEq

namespace Checked

variable {α β : Type}

/-- Applies a function to the value read. -/
def map (f : α → β) : Checked α → Checked β
  | .ok a => .ok (f a)
  | .faulty fs => .faulty fs

/-- Combines two readings, keeping the faults of both. -/
def seq (f : Checked (α → β)) (a : Checked α) : Checked β :=
  match f, a with
  | .ok f, .ok a => .ok (f a)
  | .ok _, .faulty fs => .faulty fs
  | .faulty fs, .ok _ => .faulty fs
  | .faulty fs, .faulty gs => .faulty (fs ++ gs)

instance : Functor Checked where
  map := map

instance : Seq Checked where
  seq f a := seq f (a ())

/-- A single fault here. -/
def fail (cause : Cause) : Checked α := .faulty [⟨[], cause⟩]

/-- The same outcome, seen from one level further out. -/
def under (step : Step) : Checked α → Checked α
  | .ok a => .ok a
  | .faulty fs => .faulty (fs.map (Fault.under step))

/-- Reads every member of a list, counting from the given number. -/
def allFrom (read : Value → Checked α) (start : Nat) : List Value → Checked (List α)
  | [] => .ok []
  | v :: vs =>
    seq (map List.cons ((read v).under (.index start))) (allFrom read (start + 1) vs)

/-- The value read, if there were no faults. -/
def value? : Checked α → Option α
  | .ok a => some a
  | .faulty _ => none

/-- The faults; none if a value was read. -/
def faults : Checked α → List Fault
  | .ok _ => []
  | .faulty fs => fs

@[simp] theorem map_ok (f : α → β) (a : α) : map f (.ok a) = .ok (f a) := rfl

@[simp] theorem seq_ok_ok (f : α → β) (a : α) : seq (.ok f) (.ok a) = .ok (f a) := rfl

/-- A combined reading succeeds exactly when both of its parts do. -/
theorem seq_eq_ok_iff {f : Checked (α → β)} {a : Checked α} {b : β} :
    seq f a = .ok b ↔ ∃ g x, f = .ok g ∧ a = .ok x ∧ g x = b := by
  cases f <;> cases a <;> simp [seq]

/-- Mapping succeeds exactly when the reading does. -/
theorem map_eq_ok_iff {f : α → β} {a : Checked α} {b : β} :
    map f a = .ok b ↔ ∃ x, a = .ok x ∧ f x = b := by
  cases a <;> simp [map]

/-- Moving outwards keeps success. -/
@[simp] theorem under_eq_ok_iff {step : Step} {a : Checked α} {x : α} :
    a.under step = .ok x ↔ a = .ok x := by
  cases a <;> simp [under]

end Checked
end QuestFlow

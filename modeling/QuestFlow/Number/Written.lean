import QuestFlow.Number.IntegerText

/-!
# Integers that are written out

A number of more than 4300 digits is not written as a text, just as none is read from one.  Nothing
is done about it where numbers are put into texts: the first one that has too many digits ends the
work.
-/

namespace QuestFlow

/-- A number that has too many digits to be written out. -/
structure TooManyDigits where
  number : Int
  deriving DecidableEq, Repr

/-- The message about it, which does not name the number. -/
def TooManyDigits.message (_ : TooManyDigits) : String :=
  "Exceeds the limit (" ++ toString IntegerText.digitLimit ++
    " digits) for integer string conversion; use sys.set_int_max_str_digits() to increase the limit"

namespace IntegerText

/-- Whether a number is written out. -/
def isWritable (n : Int) : Bool := n.natAbs < Nat.pow 10 digitLimit

/-- Something into which numbers are written, in order. -/
def naming {α : Type} (numbers : List Int) (a : α) : Except TooManyDigits α :=
  match numbers.find? (!isWritable ·) with
  | some n => .error ⟨n⟩
  | none => .ok a

/-- It is made just if all numbers are written out. -/
theorem naming_eq_ok_iff {α : Type} {numbers : List Int} {a b : α} :
    naming numbers a = .ok b ↔ (∀ n ∈ numbers, isWritable n = true) ∧ a = b := by
  have hall : numbers.find? (!isWritable ·) = none ↔ ∀ n ∈ numbers, isWritable n = true := by
    simp [List.find?_eq_none]
  rw [naming, ← hall]
  cases numbers.find? (!isWritable ·) <;> simp

/-- Otherwise the first number with too many digits is told. -/
theorem naming_eq_error_iff {α : Type} {numbers : List Int} {a : α} {e : TooManyDigits} :
    naming numbers a = .error e ↔ ∃ before after, numbers = before ++ e.number :: after ∧
      (∀ n ∈ before, isWritable n = true) ∧ isWritable e.number = false := by
  have hfirst : naming numbers a = .error e ↔
      numbers.find? (!isWritable ·) = some e.number := by
    rw [naming]
    cases numbers.find? (!isWritable ·) with
    | none => simp
    | some n =>
      rw [Except.error.injEq, Option.some.injEq]
      exact ⟨fun h => h ▸ rfl, fun h => congrArg TooManyDigits.mk h⟩
  rw [hfirst, List.find?_eq_some_iff_append]
  constructor
  · rintro ⟨hlong, before, after, hsplit, hbefore⟩
    exact ⟨before, after, hsplit, by simpa using hbefore, by simpa using hlong⟩
  · rintro ⟨before, after, hsplit, hbefore, hlong⟩
    exact ⟨by simpa using hlong, before, after, hsplit, by simpa using hbefore⟩

/-- The least number that is not written out. -/
def leastUnwritable : Int := Int.ofNat (Nat.pow 10 digitLimit)

theorem isWritable_leastUnwritable : isWritable leastUnwritable = false := by
  have hself : ∀ n, decide ((Int.ofNat n).natAbs < n) = false := fun n =>
    decide_eq_false (Nat.lt_irrefl n)
  rw [isWritable, leastUnwritable, hself]

end IntegerText
end QuestFlow

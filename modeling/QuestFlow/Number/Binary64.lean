/-!
# Binary floating point numbers

A document may hold numbers with a fraction.  Nothing in this library calculates with them: they
are kept, written back, and asked two questions (is it zero, is it a whole number).  So a number is
its 64-bit word and nothing else, and every question is answered from the fields of the word in
exact arithmetic on `Nat` and `Int`.

* `Binary64.significand` and `Binary64.scale` — without its sign, the value is
  `significand · 2 ^ scale`;
* `Binary64.toInt?` — the whole number that the word stands for, if it stands for one;
* `Binary64.ofScientific` — the word nearest to a decimal.
-/

namespace QuestFlow

/-- A number in the 64-bit binary interchange format, kept as its word. -/
structure Binary64 where
  /-- sign, exponent field and fraction field, from the high end to the low end -/
  bits : UInt64
  deriving DecidableEq, Repr, Inhabited

namespace Binary64

/-- The eleven bits of the exponent field. -/
def exponentField (x : Binary64) : Nat := (x.bits >>> 52).toNat % 2048

/-- The fifty-two bits of the fraction field. -/
def fractionField (x : Binary64) : Nat := x.bits.toNat % Nat.pow 2 52

/-- The sign bit; zero has one too. -/
def isNegative (x : Binary64) : Bool := x.bits >>> 63 == 1

/-- Neither an infinity nor "not a number". -/
def isFinite (x : Binary64) : Bool := x.exponentField != 2047

/-- "Not a number": the exponent field is full and the fraction is not empty. -/
def isNaN (x : Binary64) : Bool := x.exponentField == 2047 && x.fractionField != 0

/-- The whole factor of the magnitude: the hidden leading bit is added unless the exponent field
is empty. -/
def significand (x : Binary64) : Nat :=
  if x.exponentField = 0 then x.fractionField else Nat.pow 2 52 + x.fractionField

/-- The power of two of the magnitude. -/
def scale (x : Binary64) : Int :=
  (if x.exponentField = 0 then 1 else (x.exponentField : Int)) - 1075

/-- Zero of either sign. -/
def isZero (x : Binary64) : Bool := x.isFinite && x.significand == 0

/-- `some n` if the magnitude is the whole number `n`. -/
def wholeMagnitude? (x : Binary64) : Option Nat :=
  match x.scale with
  | .ofNat k => some (x.significand * Nat.pow 2 k)
  | .negSucc k =>
    let unit := Nat.pow 2 (k + 1)
    if x.significand % unit = 0 then some (x.significand / unit) else none

/-- `some n` if the number is finite and has no fraction. -/
def toInt? (x : Binary64) : Option Int :=
  if x.isFinite then
    x.wholeMagnitude?.map fun n => if x.isNegative then -(n : Int) else n
  else none

/-- The word nearest to `digits · 10 ^ exponent`, negative if asked. -/
def ofScientific (negative : Bool) (digits : Nat) (exponent : Int) : Binary64 :=
  let magnitude : Float := match exponent with
    | .ofNat e => .ofScientific digits false e
    | .negSucc e => .ofScientific digits true (e + 1)
  ⟨(if negative then -magnitude else magnitude).toBits⟩

/-- The word for "not a number". -/
def nan : Binary64 := ⟨0x7ff8000000000000⟩

/-- The word for infinity of the given sign. -/
def infinity (negative : Bool) : Binary64 :=
  ⟨if negative then 0xfff0000000000000 else 0x7ff0000000000000⟩

example : toInt? ⟨0x3ff0000000000000⟩ = some 1 := by decide
example : toInt? ⟨0xc000000000000000⟩ = some (-2) := by decide
example : toInt? ⟨0x3ff8000000000000⟩ = none := by decide
example : toInt? nan = none ∧ isNaN nan = true ∧ isNaN (infinity true) = false := by decide
example : isZero ⟨0x8000000000000000⟩ = true ∧ isZero ⟨1⟩ = false := by decide

end Binary64
end QuestFlow

import QuestFlow.Number.Binary64
import QuestFlow.Text.Blank

/-!
# The shortest decimal of a binary number

A finite number is written with the fewest decimal digits that still single it out among all
numbers of the format.  The reals that round to a number form an interval around it; its ends
belong to it exactly when the significand is even.  For one digit, two digits, and so on, the two
neighbours of the number on the grid of decimals with that many digits are tried in exact
arithmetic: the first grid with a neighbour inside the interval wins, of two neighbours the nearer
one, and of two equally near ones the even one.

`Decimal.shortest` finds the digits, `Binary64.text` lays them out: without an exponent from
`0.0001` up to below `10 ^ 16`, and with an exponent of at least two digits elsewhere.  A number
that has no fraction keeps a `.0`, so it cannot be mistaken for an integer.
-/

namespace QuestFlow

/-- A positive decimal: `digits · 10 ^ exponent`. -/
structure Decimal where
  /-- the digits, read as one whole number -/
  digits : Nat
  /-- the power of ten that the last digit counts -/
  exponent : Int
  deriving DecidableEq, Repr

namespace Decimal

/-- The position of the leading digit of `num / den`, as a power of ten: the greatest `p` with
`10 ^ p ≤ num / den`, for a positive fraction. -/
def leadingPower (num den : Nat) : Int :=
  if den ≤ num then (Nat.toDigits 10 (num / den)).length - 1
  else
    let j := (Nat.toDigits 10 (den / num)).length
    if den ≤ num * Nat.pow 10 (j - 1) then -((j : Int) - 1) else -(j : Int)

/-- The neighbour of `num / den` on the grid of multiples of `10 ^ k` that lies between
`low / den` and `high / den` (ends included if `closed`) and is nearest, ties to the even one. -/
def onGrid? (num low high den : Nat) (closed : Bool) (k : Int) : Option Decimal :=
  let up := Nat.pow 10 (-k).toNat
  let unit := den * Nat.pow 10 k.toNat
  let value := num * up
  let inside (a : Nat) : Bool :=
    if closed then low * up ≤ a * unit && a * unit ≤ high * up
    else low * up < a * unit && a * unit < high * up
  let below := value / unit
  let above := below + 1
  let nearer :=
    if value - below * unit < above * unit - value then below
    else if above * unit - value < value - below * unit then above
    else if below % 2 = 0 then below else above
  let other := if nearer = below then above else below
  if nearer != 0 && inside nearer then some ⟨nearer, k⟩
  else if other != 0 && inside other then some ⟨other, k⟩
  else none

/-- The shortest decimal that rounds to the positive number `significand · 2 ^ scale`; `lowest` says
that the next smaller number is only half as far away as the next greater one. -/
def shortest (significand : Nat) (scale : Int) (lowest : Bool) : Decimal :=
  let up := Nat.pow 2 (scale - 2).toNat
  let den := Nat.pow 2 (2 - scale).toNat
  let num := 4 * significand * up
  let low := (4 * significand - (if lowest then 1 else 2)) * up
  let high := (4 * significand + 2) * up
  let top := leadingPower num den
  let grids := (List.range 17).map fun (n : Nat) => top - (n : Int)
  (grids.findSome? (onGrid? num low high den (significand % 2 == 0))).getD ⟨significand, 0⟩

/-- The digits as characters, without the zeros at the end; the count of zeros dropped is returned
too. -/
def stripZeros (digits : List Char) : List Char × Nat :=
  let kept := (digits.reverse.dropWhile (· == '0')).reverse
  (kept, digits.length - kept.length)

end Decimal

namespace Binary64

/-- How a number is laid out. -/
structure Layout where
  /-- the least power of ten of a leading digit that is written without an exponent -/
  lowestPlain : Int
  /-- the least power of ten of a leading digit that is too great to be written without one -/
  pastPlain : Int
  /-- digits that an exponent has at least -/
  exponentWidth : Nat
  /-- the texts of the values that are no numbers -/
  infinite : String
  undefined : String

/-- Numbers in documents and messages. -/
def layout : Layout := ⟨-4, 16, 2, "inf", "nan"⟩

/-- Zeros in front, up to the given width. -/
def padZeros (width : Nat) (digits : List Char) : List Char :=
  List.replicate (width - digits.length) '0' ++ digits

/-- The digits of a positive decimal, laid out. -/
def layOut (l : Layout) (d : Decimal) : List Char :=
  let all := Nat.toDigits 10 d.digits
  let (digits, dropped) := Decimal.stripZeros all
  let last : Int := d.exponent + dropped
  let lead : Int := last + digits.length - 1
  if l.lowestPlain ≤ lead ∧ lead < l.pastPlain then
    if 0 ≤ last then digits ++ List.replicate last.toNat '0' ++ ['.', '0']
    else if 0 ≤ lead then
      digits.take (lead.toNat + 1) ++ '.' :: digits.drop (lead.toNat + 1)
    else '0' :: '.' :: List.replicate ((-lead).toNat - 1) '0' ++ digits
  else
    let mantissa := match digits with
      | [] => []
      | [c] => [c]
      | c :: rest => c :: '.' :: rest
    let sign := if lead < 0 then '-' else '+'
    mantissa ++ 'e' :: sign :: padZeros l.exponentWidth (Nat.toDigits 10 lead.natAbs)

/-- The number as text. -/
def text (x : Binary64) : String :=
  let body : List Char :=
    if x.isNaN then layout.undefined.toList
    else if !x.isFinite then layout.infinite.toList
    else if x.isZero then ['0', '.', '0']
    else layOut layout
      (Decimal.shortest x.significand x.scale (x.fractionField == 0 && x.exponentField > 1))
  String.ofList (if x.isNegative && !x.isNaN then '-' :: body else body)

/-- The characters without single underscores between two digits; `none` if an underscore stands
elsewhere. -/
def withoutPauses? (afterDigit : Bool) : List Char → Option (List Char)
  | [] => some []
  | c :: cs =>
    if c = '_' then
      if afterDigit && cs.head?.any Char.isDigit then withoutPauses? false cs else none
    else (withoutPauses? c.isDigit cs).map (c :: ·)

/-- The number that the characters name: digits with a point among them and an exponent behind them,
both optional. -/
def ofDigits? (negative : Bool) (cs : List Char) : Option Binary64 :=
  let whole := cs.takeWhile Char.isDigit
  let rest := cs.dropWhile Char.isDigit
  let (fraction, rest) := match rest with
    | '.' :: r => (r.takeWhile Char.isDigit, r.dropWhile Char.isDigit)
    | r => ([], r)
  let exponent? : Option Int := match rest with
    | [] => some 0
    | c :: r =>
      if c == 'e' then
        let (sign, ds) := match r with
          | '-' :: ds => ((-1 : Int), ds)
          | '+' :: ds => (1, ds)
          | ds => (1, ds)
        if ds.isEmpty || !ds.all Char.isDigit then none
        else some (sign * (Nat.ofDigitChars 10 ds 0 : Int))
      else none
  if whole.isEmpty && fraction.isEmpty then none
  else exponent?.map fun e =>
    ofScientific negative (Nat.ofDigitChars 10 (whole ++ fraction) 0) (e - fraction.length)

/-- The number that a text names: what `text` writes and more, with blanks around it, small or
capital letters, any count of digits, single underscores between digits, and either sign.  `none`
for any other text. -/
def ofText? (s : String) : Option Binary64 :=
  let cs := (Text.trimBoth Text.isBlank s.toList).map Char.toLower
  let negative := cs.head? == some '-'
  let cs := if negative || cs.head? == some '+' then cs.drop 1 else cs
  if cs == layout.undefined.toList then some nan
  else if cs == layout.infinite.toList || cs == "infinity".toList then some (infinity negative)
  else (withoutPauses? false cs).bind (ofDigits? negative)

example : text ⟨0x3ff0000000000000⟩ = "1.0" := by decide +kernel
example : text ⟨0x3fb999999999999a⟩ = "0.1" := by decide +kernel
example : text ⟨0x430c6bf526340000⟩ = "1000000000000000.0" := by decide +kernel
example : text ⟨0x4341c37937e08000⟩ = "1e+16" := by decide +kernel
example : text ⟨0x3f1a36e2eb1c432d⟩ = "0.0001" := by decide +kernel
example : text ⟨0x3ee4f8b588e368f1⟩ = "1e-05" := by decide +kernel
example : text ⟨0x0000000000000001⟩ = "5e-324" := by decide +kernel
example : text ⟨0x40fe240c9fbe76c9⟩ = "123456.789" := by decide +kernel
example : text ⟨0x8000000000000000⟩ = "-0.0" ∧ text (infinity true) = "-inf" := by decide +kernel
example : ofText? " -1_0.5_0E-1 " = ofText? "-1.05" ∧ ofText? "1_.5" = none := by decide +kernel
example : ofText? "1e+16" = some ⟨0x4341c37937e08000⟩ ∧ ofText? "1e" = none := by decide +kernel

end Binary64
end QuestFlow

import QuestFlow.Text.Blank

/-!
# Integers written as text

A text stands for an integer if, without the white space around it, it is an optional sign, then
decimal digits of ASCII with single underscores between digits, then optionally a point followed by
one or more zeros.

The digits may begin with zeros.  Such *leading zeros* carry nothing: any number of underscores may
stand among them and behind them, and, where no minus stands in front, the number behind them may
have a minus of its own (`00-12`).  Behind that minus a single underscore may stand, but no further
leading zero.

`IntegerText.read?` reads that grammar and refuses everything else.  `IntegerText.reading` adds the
limit on length: a number has at most 4300 digits, its leading zeros apart.  A text that begins with
more than that is refused for its size, whatever stands behind the digits; where only the cleaning
of the text brings so many digits together, it is unreadable like any other.
-/

namespace QuestFlow.IntegerText

/-- Digits with single underscores between them: their value so far, and whether an underscore may
come next.  Refuses an underscore that stands last or next to another. -/
def digits? (value : Nat) (mayPause : Bool) : List Char → Option Nat
  | [] => if mayPause then some value else none
  | c :: cs =>
    if c = '_' then if mayPause then digits? value false cs else none
    else if c.isDigit then digits? (value * 10 + (c.toNat - 48)) true cs
    else none

/-- Whether the text is empty, or a point with one or more zeros behind it. -/
def isZeroFraction : List Char → Bool
  | [] => true
  | c :: cs => c == '.' && !cs.isEmpty && cs.all (· == '0')

/-- The text before the point, if nothing but zeros stands behind it. -/
def whole? (cs : List Char) : Option (List Char) :=
  if isZeroFraction (cs.dropWhile (· != '.')) then some (cs.takeWhile (· != '.')) else none

/-- A leading zero, or an underscore among them. -/
def isFiller (c : Char) : Bool := c == '0' || c == '_'

/-- What the leading zeros of a text leave: all that stands behind them, or else its last character,
which is the digit of a zero. -/
def behindZeros (cs : List Char) : List Char :=
  if cs.head? = some '0' then
    match cs.dropWhile isFiller with
    | [] => cs.getLast?.toList
    | rest => rest
  else cs

/-- The number without a sign that a text names. -/
def unsigned? (cs : List Char) : Option Nat :=
  (whole? cs).bind fun whole => digits? 0 false (behindZeros whole)

/-- The number behind a minus that follows leading zeros: it has no leading zero of its own. -/
def plain? (cs : List Char) : Option Nat :=
  match cs.filter (· != '_') with
  | [] => none
  | d :: rest => if d = '0' ∧ rest ≠ [] then none else digits? 0 true cs

/-- The number that a text without a minus in front names: what follows leading zeros may have a
minus of its own. -/
def inner? (cs : List Char) : Option Int :=
  (whole? cs).bind fun whole =>
    match whole.head?, behindZeros whole with
    | some '0', '-' :: rest => (plain? rest).map fun n => -(n : Int)
    | _, rest => (digits? 0 false rest).map fun n => (n : Int)

/-- The integer that a text names. -/
def read? (s : String) : Option Int :=
  match Text.trimBoth Text.isWhiteSpace s.toList with
  | '-' :: cs => (unsigned? cs).map fun n => -(n : Int)
  | '+' :: cs => inner? cs
  | cs => inner? cs

/-- The greatest number of digits of an integer that is written as a text. -/
def digitLimit : Nat := 4300

/-- The number of digits at the start of a text, behind a minus if there is one.  Digits that begin
with a zero are not counted. -/
def openingDigits (cs : List Char) : Nat :=
  let unsigned := if cs.head? = some '-' then cs.drop 1 else cs
  if unsigned.head? = some '0' then 0 else (unsigned.takeWhile Char.isDigit).length

/-- What a text says about an integer. -/
inductive Reading where
  | value (n : Int)
  | tooLong
  | unreadable
  deriving DecidableEq, Repr

/-- What a text says about an integer: too much, if it begins with more digits than a number may
have, and else what it names. -/
def reading (s : String) : Reading :=
  if digitLimit < openingDigits s.toList then .tooLong
  else match read? s with
    | some n => if n.natAbs < Nat.pow 10 digitLimit then .value n else .unreadable
    | none => .unreadable

example : openingDigits "-120_0".toList = 3 ∧ openingDigits "012".toList = 0 ∧
    openingDigits " 12".toList = 0 ∧ openingDigits "+12".toList = 0 := by
  decide +kernel
example : read? " +1_000.0\n" = some 1000 ∧ read? "-0" = some 0 := by decide +kernel
example : read? "1__0" = none ∧ read? "1." = none ∧ read? "_1" = none ∧ read? "- 1" = none := by
  decide +kernel
example : read? "" = none ∧ read? "+" = none ∧ read? "1e3" = none ∧ read? "٣" = none := by
  decide +kernel
example : read? "-0__2" = some (-2) ∧ read? "0_0.0" = some 0 ∧ read? "0_" = none := by
  decide +kernel
example : read? "0_-_1" = some (-1) ∧ read? "0-0" = some 0 ∧ read? "0-00" = none ∧
    read? "-0-1" = none ∧ read? "0--1" = none ∧ read? "0-_" = none := by
  decide +kernel

end QuestFlow.IntegerText

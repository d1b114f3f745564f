/-!
# Blank characters

Two classes of blank characters: the white space of the Unicode property `White_Space`, which may
stand around a number, and, wider by the four separators of ASCII (U+001C to U+001F), the blanks
that count when a setting is read.
-/

namespace QuestFlow.Text

/-- The characters with the Unicode property `White_Space`. -/
def isWhiteSpace (c : Char) : Bool :=
  let n := c.toNat
  (9 ≤ n && n ≤ 13) || n == 32 || n == 0x85 || n == 0xa0 || n == 0x1680 ||
  (0x2000 ≤ n && n ≤ 0x200a) || n == 0x2028 || n == 0x2029 || n == 0x202f || n == 0x205f ||
  n == 0x3000

/-- White space, and the four separators of ASCII. -/
def isBlank (c : Char) : Bool :=
  isWhiteSpace c || (28 ≤ c.toNat && c.toNat ≤ 31)

/-- The characters without those at either end that satisfy `p`. -/
def trimBoth (p : Char → Bool) (cs : List Char) : List Char :=
  ((cs.dropWhile p).reverse.dropWhile p).reverse

example : isWhiteSpace '\u00a0' = true ∧ isWhiteSpace '\x1c' = false := by decide
example : isBlank '\u3000' = true ∧ isBlank '\x1c' = true ∧ isBlank '\u200b' = false := by decide
example : trimBoth isBlank [' ', 'a', ' ', 'b', '\t'] = ['a', ' ', 'b'] := by decide

end QuestFlow.Text

import QuestFlow.Text.Unprintable

/-!
# Quoted text

How a text is shown inside a longer text that must stay on one line: between single quotes, or
between double quotes if it holds single quotes and no double ones.  The quote in use and the
backslash are written with a backslash in front, the three common line controls by their letters,
and every other character that has no printed form by its number in two, four or eight digits.
-/

namespace QuestFlow.Text

/-- A number in lower-case hexadecimal, with zeros in front up to the given width. -/
def hexPadded (width n : Nat) : List Char :=
  let digits := Nat.toDigits 16 n
  List.replicate (width - digits.length) '0' ++ digits

/-- One character between quotes of the given kind. -/
def quoteChar (quote c : Char) : List Char :=
  if c = quote ∨ c = '\\' then ['\\', c]
  else if c = '\n' then ['\\', 'n']
  else if c = '\r' then ['\\', 'r']
  else if c = '\t' then ['\\', 't']
  else if isUnprintable c then
    let n := c.toNat
    if n < 0x100 then '\\' :: 'x' :: hexPadded 2 n
    else if n < 0x10000 then '\\' :: 'u' :: hexPadded 4 n
    else '\\' :: 'U' :: hexPadded 8 n
  else [c]

/-- The kind of quote that goes around a text. -/
def quoteFor (cs : List Char) : Char :=
  if cs.contains '\'' && !cs.contains '"' then '"' else '\''

/-- The text between quotes. -/
def quoted (s : String) : String :=
  let cs := s.toList
  let q := quoteFor cs
  String.ofList (q :: cs.flatMap (quoteChar q) ++ [q])

example : quoted "it's" = "\"it's\"" ∧ quoted "a\n\u00a0" = "'a\\n\\xa0'" := by decide +kernel

end QuestFlow.Text

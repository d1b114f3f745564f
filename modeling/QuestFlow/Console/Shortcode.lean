import QuestFlow.Console.Shortcode.LettersAToC
import QuestFlow.Console.Shortcode.LettersDToF
import QuestFlow.Console.Shortcode.LettersGToL
import QuestFlow.Console.Shortcode.LetterM
import QuestFlow.Console.Shortcode.LettersNToR
import QuestFlow.Console.Shortcode.LettersSToV
import QuestFlow.Console.Shortcode.LettersWToZ
import QuestFlow.Text.Blank

/-!
# Shortcodes

A text on its way to the console may name pictorial characters: a name between colons, such as
`:warning:`, becomes the character.  A name may end in `-text` or `-emoji`, which asks for the
plain or the coloured form.  Names are matched whatever the case of their letters; a name that is
not known stays as it is, colons included.

A name has no blank in it.  It ends at the next colon, and what follows that colon is looked at
anew.
-/

namespace QuestFlow.Console

/-- All names, in tables of their own by their first letters. -/
def shortcodeTables : List (List (String × String)) :=
  [lettersAToC1, lettersAToC2, lettersAToC3, lettersAToC4, lettersAToC5, lettersAToC6,
    lettersAToC7, lettersAToC8, lettersAToC9, lettersDToF1, lettersDToF2, lettersDToF3,
    lettersDToF4, lettersDToF5, lettersDToF6, lettersDToF7, lettersDToF8, lettersDToF9,
    lettersGToL1, lettersGToL2, lettersGToL3, lettersGToL4, lettersGToL5, lettersGToL6,
    letterM1, letterM2, letterM3, letterM4, letterM5, letterM6, letterM7, letterM8,
    lettersNToR1, lettersNToR2, lettersNToR3, lettersNToR4, lettersNToR5, lettersNToR6,
    lettersNToR7, lettersNToR8, lettersNToR9, lettersNToR10, lettersSToV1, lettersSToV2,
    lettersSToV3, lettersSToV4, lettersSToV5, lettersSToV6, lettersSToV7, lettersWToZ1,
    lettersWToZ2, lettersWToZ3, lettersWToZ4, lettersWToZ5, lettersWToZ6, lettersWToZ7]

/-- The small letter of a letter, for the letters that names are made of: those of ASCII and the
accented ones of Latin-1, with the two signs that stand for such letters. -/
def lowerLetter (c : Char) : Char :=
  let n := c.toNat
  if 0xc0 ≤ n && n ≤ 0xde && n != 0xd7 then Char.ofNat (n + 0x20)
  else if n = 0x212a then 'k'
  else if n = 0x212b then Char.ofNat 0xe5
  else c.toLower

/-- The character that a name stands for. -/
def pictogram? (name : String) : Option String :=
  shortcodeTables.findSome? (·.lookup name)

/-- The name without its ending, if it has that ending. -/
def withoutEnding? (ending name : List Char) : Option (List Char) :=
  if ending.isSuffixOf name then some (name.take (name.length - ending.length)) else none

/-- What stands between two colons, as a character; none if it is no known name. -/
def expandName? (name : List Char) : Option (List Char) :=
  let (name, variation) :=
    match withoutEnding? "-emoji".toList name, withoutEnding? "-text".toList name with
    | some stem, _ => (stem, ['\ufe0f'])
    | none, some stem => (stem, ['\ufe0e'])
    | none, none => (name, [])
  (pictogram? (String.ofList (name.map lowerLetter))).map fun s => s.toList ++ variation

/-- Reads on behind a colon: `name` holds what has been read since, last character first.  Without a
colon before the next blank, the first colon was an ordinary character. -/
def expandFrom (name : List Char) : List Char → List Char
  | [] => ':' :: name.reverse
  | c :: cs =>
    if c = ':' then
      ((expandName? name.reverse).getD (':' :: name.reverse ++ [':'])) ++ expandBetween cs
    else if Text.isBlank c then ':' :: name.reverse ++ c :: expandBetween cs
    else expandFrom (c :: name) cs
where
  /-- Reads on between names. -/
  expandBetween : List Char → List Char
    | [] => []
    | c :: cs => if c = ':' then expandFrom [] cs else c :: expandBetween cs

/-- The characters with every known name between colons replaced. -/
def expandShortcodes (cs : List Char) : List Char := expandFrom.expandBetween cs

end QuestFlow.Console

import QuestFlow.Console.CellWidth
import QuestFlow.Console.Markup

/-!
# Text on the console

What is printed is not quite the text that was given: shortcodes become pictorial characters, five
control characters are left out, and tabs are filled up to the next multiple of eight
cells.  Lines are never broken, whatever their length.
-/

namespace QuestFlow.Console

/-- The control characters that are never printed. -/
def isSilenced (c : Char) : Bool :=
  let n := c.toNat
  n == 7 || n == 8 || n == 11 || n == 12 || n == 13

/-- The distance between tab stops. -/
def tabStop : Nat := 8

/-- The characters with every tab filled up to the next stop; `gauge` has measured what stands
between the last stop and here.  A tab is a blank first, measured as such, and then as many more
as lead to a stop. -/
def expandTabs (gauge : Gauge) : List Char → List Char
  | [] => []
  | c :: cs =>
    if c = '\t' then
      let cell := (gauge.add ' ').cells
      let fill := (tabStop - cell % tabStop) % tabStop
      ' ' :: List.replicate fill ' ' ++ expandTabs (.start (cell + fill)) cs
    else if c = '\n' then c :: expandTabs (.start 0) cs
    else c :: expandTabs (gauge.add c) cs

/-- What is printed for characters whose shortcodes have been replaced. -/
def settled (cs : List Char) : List Char := expandTabs (.start 0) (cs.filter fun c => !isSilenced c)

/-- A plain line on the console. -/
def plainLine (s : String) : String :=
  String.ofList (settled (expandShortcodes s.toList) ++ ['\n'])

/-- A message behind a coloured word. -/
def markedLine (word message : String) : String :=
  String.ofList (settled (word.toList ++ besideMarkup [' '] message.toList) ++ ['\n'])

/-- Plain lines, one after another. -/
def plainLines (lines : List String) : String := String.join (lines.map plainLine)

example : settled "a\tb\r日\tc".toList = "a       b日     c".toList := by decide +kernel

end QuestFlow.Console

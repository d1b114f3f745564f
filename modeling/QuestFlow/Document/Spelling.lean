import QuestFlow.Document.Value
import QuestFlow.Number.Decimal
import QuestFlow.Text.Quoted

/-!
# How a value is spelled as text

A setting that should be a text but is written as something else is taken as the text that spells
it: `5` as `5`, a truth value as `True` or `False`, a list in brackets with its members spelled in
turn.  A text stands for itself at the top and is quoted inside a list or a mapping.
-/

namespace QuestFlow

/-- The spelling of a key inside a mapping. -/
def Key.spelling : Key → String
  | .null => "None"
  | .bool b => if b then "True" else "False"
  | .int n => toString n
  | .float x => x.text
  | .text s => Text.quoted s

namespace Value

mutual

/-- The spelling of a value inside a list or a mapping. -/
def innerSpelling : Value → String
  | .null => "None"
  | .bool b => if b then "True" else "False"
  | .int n => toString n
  | .float x => x.text
  | .text s => Text.quoted s
  | .list items => "[" ++ String.intercalate ", " (itemSpellings items) ++ "]"
  | .mapping entries => "\x7b" ++ String.intercalate ", " (entrySpellings entries) ++ "\x7d"

/-- The spellings of the members of a list. -/
def itemSpellings : List Value → List String
  | [] => []
  | v :: vs => innerSpelling v :: itemSpellings vs

/-- The spellings of the entries of a mapping. -/
def entrySpellings : List (Key × Value) → List String
  | [] => []
  | (k, v) :: es => (k.spelling ++ ": " ++ innerSpelling v) :: entrySpellings es

end

/-- The spelling of a value that stands alone. -/
def spelling : Value → String
  | .text s => s
  | v => innerSpelling v

example : spelling (.list [.text "x", .null, .bool true]) = "['x', None, True]" := by
  decide +kernel
example : spelling (.text "x") = "x" := rfl
example : spelling (.mapping [(.int 1, .text "y")]) = "\x7b1: 'y'\x7d" := by decide +kernel

end Value
end QuestFlow

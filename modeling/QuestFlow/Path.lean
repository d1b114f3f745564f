import QuestFlow.Text.Order

/-!
# File paths

A path is a list of components, taken from where the program runs or from a root.  Writing a path
down and reading it back forgets nothing but blank components: repeated and final slashes and the
component `.` vanish, while `..` stays, because it cannot be resolved without looking at the
files.  Exactly two slashes in front are a root of their own; three or more are the ordinary root.
-/

namespace QuestFlow

/-- Where a path starts. -/
inductive Anchor where
  | here | root | doubleRoot
  deriving DecidableEq, Repr

/-- A path in normal form: no component is empty or a single point, or holds a slash. -/
structure Path where
  anchor : Anchor := .here
  parts : List String := []
  deriving DecidableEq, Repr

namespace Path

/-- What stands before, between and after the slashes. -/
def segments : List Char → List (List Char)
  | [] => [[]]
  | c :: cs =>
    if c = '/' then [] :: segments cs
    else match segments cs with
      | [] => [[c]]
      | s :: ss => (c :: s) :: ss

/-- The components of a text: what stands between slashes, without the blank ones. -/
def components (s : String) : List String :=
  ((segments s.toList).filter fun part => part != [] && part != ['.']).map String.ofList

/-- The anchor that a text starts from, by the number of slashes in front. -/
def anchorOf (s : String) : Anchor :=
  match (s.toList.takeWhile (· == '/')).length with
  | 0 => .here
  | 2 => .doubleRoot
  | _ => .root

/-- The path that a text names. -/
def ofText (s : String) : Path := ⟨anchorOf s, components s⟩

/-- The path as text. -/
def text (p : Path) : String :=
  let body := String.intercalate "/" p.parts
  match p.anchor with
  | .here => if p.parts.isEmpty then "." else body
  | .root => "/" ++ body
  | .doubleRoot => "//" ++ body

instance : ToString Path := ⟨text⟩

/-- Whether a component holds a zero byte. -/
def hasZeroByte (p : Path) : Bool := p.parts.any fun part => part.toList.contains '\x00'

/-- Whether the path starts from a root. -/
def isAbsolute (p : Path) : Bool := p.anchor != .here

/-- The second path, taken from the first one unless it starts from a root itself. -/
def join (base p : Path) : Path :=
  if p.isAbsolute then p else ⟨base.anchor, base.parts ++ p.parts⟩

/-- The path of a file in the directory. -/
def child (base : Path) (name : String) : Path := ⟨base.anchor, base.parts ++ [name]⟩

/-- The directory that holds the path; a path without components is its own. -/
def parent (p : Path) : Path := { p with parts := p.parts.dropLast }

/-- The last component; empty if there is none. -/
def name (p : Path) : String := p.parts.getLast?.getD ""

/-- The ending of a file name: from its last point on, unless that point is its first or its last
character. -/
def suffixOf (name : String) : String :=
  let cs := name.toList
  let ending := (cs.reverse.takeWhile (· != '.')).reverse
  if cs.contains '.' && !ending.isEmpty && ending.length + 1 < cs.length then
    String.ofList ('.' :: ending)
  else ""

/-- Whether one path comes before another or equals it: by components. -/
def le (p q : Path) : Bool := Text.componentsLE p.parts q.parts

example : (ofText "./quests//a/../b/").text = "quests/a/../b" := by decide +kernel
example : (ofText "").text = "." ∧ (ofText "//x").text = "//x" ∧ (ofText "///x").text = "/x" := by
  decide +kernel
example : suffixOf "a.d.yaml" = ".yaml" ∧ suffixOf ".yaml" = "" ∧ suffixOf "a." = "" := by
  decide +kernel

end Path
end QuestFlow

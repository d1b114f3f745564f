import QuestFlow.Number.Binary64

/-!
# Document values

A quest file, a catalog file and a settings file are all read into one type of value before any
rule looks at them.  The type is that of the document format and not of quests: what a quest does
with an entry it does not know is to keep the value as it is, so the values have to be able to
hold anything.

The entries of a mapping keep the order of the document.  The order is part of the meaning: of a
condition's entries, the first that fits decides what the condition is.  A key is a scalar; most are
texts, and only those are ever looked up.
-/

namespace QuestFlow

/-- The key of an entry of a mapping. -/
inductive Key where
  | null
  | bool (b : Bool)
  | int (n : Int)
  | float (x : Binary64)
  | text (s : String)
  deriving DecidableEq, Repr, Inhabited

/-- The whole number that a key names.  A truth value names zero or one. -/
def Key.number? : Key → Option Int
  | .bool b => some (if b then 1 else 0)
  | .int n => some n
  | .float x => x.toInt?
  | .null | .text _ => none

/-- Whether a key equals itself: "not a number" does not. -/
def Key.isReflexive : Key → Bool
  | .float x => !x.isNaN
  | _ => true

/-- Whether two keys name the same entry: numbers do so by their value, whatever their kind. -/
def Key.sameAs (k l : Key) : Bool :=
  match k.number?, l.number? with
  | some a, some b => a == b
  | none, none => k == l && k.isReflexive
  | _, _ => false

example : Key.sameAs (.bool true) (.int 1) = true ∧ Key.sameAs (.text "1") (.int 1) = false := by
  decide

/-- A decoded document, or a part of one. -/
inductive Value where
  | null
  | bool (b : Bool)
  | int (n : Int)
  | float (x : Binary64)
  | text (s : String)
  | list (items : List Value)
  | mapping (entries : List (Key × Value))
  deriving Repr, Inhabited

/-- The entries of a mapping in document order. -/
abbrev Entries := List (Key × Value)

/-- Values under texts, in order. -/
abbrev Fields := List (String × Value)

/-! ## Equality is decidable -/

namespace Value

mutual

/-- Decides whether two values are equal. -/
def decEq : (v w : Value) → Decidable (v = w)
  | .null, .null => isTrue rfl
  | .bool a, .bool b => if h : a = b then isTrue (by rw [h]) else isFalse (by simp [h])
  | .int a, .int b => if h : a = b then isTrue (by rw [h]) else isFalse (by simp [h])
  | .float a, .float b => if h : a = b then isTrue (by rw [h]) else isFalse (by simp [h])
  | .text a, .text b => if h : a = b then isTrue (by rw [h]) else isFalse (by simp [h])
  | .list a, .list b =>
    match decEqItems a b with
    | isTrue h => isTrue (by rw [h])
    | isFalse h => isFalse (by simp [h])
  | .mapping a, .mapping b =>
    match decEqEntries a b with
    | isTrue h => isTrue (by rw [h])
    | isFalse h => isFalse (by simp [h])
  | .null, .bool _ | .null, .int _ | .null, .float _ | .null, .text _ | .null, .list _
  | .null, .mapping _
  | .bool _, .null | .bool _, .int _ | .bool _, .float _ | .bool _, .text _ | .bool _, .list _
  | .bool _, .mapping _
  | .int _, .null | .int _, .bool _ | .int _, .float _ | .int _, .text _ | .int _, .list _
  | .int _, .mapping _
  | .float _, .null | .float _, .bool _ | .float _, .int _ | .float _, .text _
  | .float _, .list _ | .float _, .mapping _
  | .text _, .null | .text _, .bool _ | .text _, .int _ | .text _, .float _ | .text _, .list _
  | .text _, .mapping _
  | .list _, .null | .list _, .bool _ | .list _, .int _ | .list _, .float _ | .list _, .text _
  | .list _, .mapping _
  | .mapping _, .null | .mapping _, .bool _ | .mapping _, .int _ | .mapping _, .float _
  | .mapping _, .text _ | .mapping _, .list _ => isFalse nofun

/-- Decides whether two lists of values are equal. -/
def decEqItems : (vs ws : List Value) → Decidable (vs = ws)
  | [], [] => isTrue rfl
  | [], _ :: _ => isFalse nofun
  | _ :: _, [] => isFalse nofun
  | v :: vs, w :: ws =>
    match decEq v w with
    | isFalse h => isFalse (by simp [h])
    | isTrue h =>
      match decEqItems vs ws with
      | isTrue hs => isTrue (by rw [h, hs])
      | isFalse hs => isFalse (by simp [hs])

/-- Decides whether two lists of entries are equal. -/
def decEqEntries : (es fs : List (Key × Value)) → Decidable (es = fs)
  | [], [] => isTrue rfl
  | [], _ :: _ => isFalse nofun
  | _ :: _, [] => isFalse nofun
  | (k, v) :: es, (l, w) :: fs =>
    if hk : k = l then
      match decEq v w with
      | isFalse h => isFalse (by simp [h])
      | isTrue h =>
        match decEqEntries es fs with
        | isTrue hs => isTrue (by rw [hk, h, hs])
        | isFalse hs => isFalse (by simp [hs])
    else isFalse (by simp [hk])

end

instance : DecidableEq Value := decEq

/-! ## Questions a reader asks -/

/-- The value under a key that is a text: the first entry with that key. -/
def lookup (name : String) (entries : Entries) : Option Value :=
  entries.lookup (.text name)

/-- The value under a key, if this is a mapping that has it. -/
def field? (name : String) : Value → Option Value
  | .mapping entries => lookup name entries
  | _ => none

/-- The text, if this is a text that is not empty. -/
def filledText? : Value → Option String
  | .text s => if s.isEmpty then none else some s
  | _ => none

/-- Whether a setting with this value was given at all: null, false, zero and everything empty count
as not given. -/
def isGiven : Value → Bool
  | .null => false
  | .bool b => b
  | .int n => n != 0
  | .float x => !x.isZero
  | .text s => !s.isEmpty
  | .list items => !items.isEmpty
  | .mapping entries => !entries.isEmpty

/-- A mapping from texts. -/
def ofFields (fields : Fields) : Value :=
  .mapping (fields.map fun (name, value) => (.text name, value))

/-- A list of integers. -/
def ofInts (ns : List Int) : Value := .list (ns.map .int)

/-- A list of texts. -/
def ofTexts (ts : List String) : Value := .list (ts.map .text)

/-- A text, or null. -/
def ofText? : Option String → Value
  | some s => .text s
  | none => .null

/-- An integer, or null. -/
def ofInt? : Option Int → Value
  | some n => .int n
  | none => .null

example : field? "b" (ofFields [("a", .int 1), ("b", .null)]) = some .null := by decide
example : isGiven (.text "") = false ∧ isGiven (.list [.null]) = true := by decide

end Value
end QuestFlow

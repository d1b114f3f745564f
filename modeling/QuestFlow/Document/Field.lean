import QuestFlow.Document.Checked
import QuestFlow.Number.IntegerText

/-!
# Records in documents

A record of the library (a quest, a node, an option, a message, a localized text) is written in a
document as a mapping.  Every field of a record has two spellings: its *label*, which documents use
and which is always written back, and its *plain name*, which is accepted in place of the label.  If
a mapping has both, the label holds the field and the plain name is just another entry.

An entry that no field of the record takes is *left over*.  It is kept under its key, so a document
of a newer shape loses nothing; only a key that is no text is refused.

* `Spelled.required` reads a field that must not be missing, `Spelled.optional` one with a fallback;
* `leftOver` reads the entries that no field takes;
* `record` refuses what is not a mapping.

A record is read by combining its fields in their order and its left-over entries last, with `map`
and `seq` of `Checked`, so the faults come out in that order too.
-/

namespace QuestFlow

/-! ## Reading scalars and lists -/

/-- The magnitude below which a floating number without a fraction is taken as an integer. -/
def wholeNumberLimit : Int := Nat.pow 2 63

namespace Value

/-- A text. -/
def readText : Value → Checked String
  | .text s => .ok s
  | _ => .fail .notText

/-- An integer: one written as such, a truth value, a floating number without a fraction, or a text
that names one. -/
def readInt : Value → Checked Int
  | .int n => .ok n
  | .bool b => .ok (if b then 1 else 0)
  | .float x =>
    if !x.isFinite then .fail .notFinite
    else match x.toInt? with
      | none => .fail .fractional
      | some n =>
        if -wholeNumberLimit < n ∧ n < wholeNumberLimit then .ok n else .fail .integerTooGreat
  | .text s => match IntegerText.reading s with
    | .value n => .ok n
    | .tooLong => .fail .integerTooGreat
    | .unreadable => .fail .unreadableInteger
  | _ => .fail .notInteger

/-- A list whose members are read one by one. -/
def readList {α : Type} (read : Value → Checked α) : Value → Checked (List α)
  | .list items => Checked.allFrom read 0 items
  | _ => .fail .notList

/-- Null, or what `read` accepts. -/
def readNullable {α : Type} (read : Value → Checked α) : Value → Checked (Option α)
  | .null => .ok none
  | v => (read v).map some

/-- One of the given texts. -/
def readOneOf (first : String) (others : List String) : Value → Checked String
  | .text s => if s ∈ first :: others then .ok s else .fail (.notOneOf first others)
  | _ => .fail (.notOneOf first others)

end Value

/-! ## Fields -/

/-- The two spellings of a field. -/
structure Spelled where
  /-- the spelling that documents use -/
  label : String
  /-- the spelling accepted in its place -/
  plain : String
  deriving DecidableEq, Repr

/-- The entry that holds the field, with the spelling it uses: the label before the plain name. -/
def Spelled.find (s : Spelled) (entries : Entries) : Option (String × Value) :=
  match Value.lookup s.label entries with
  | some v => some (s.label, v)
  | none => (Value.lookup s.plain entries).map fun v => (s.plain, v)

/-- Reads a field that has to be there. -/
def Spelled.required {α : Type} (s : Spelled) (read : Value → Checked α) (entries : Entries) :
    Checked α :=
  match s.find entries with
  | some (name, v) => (read v).under (.field name)
  | none => .faulty [⟨[.field s.label], .missing⟩]

/-- Reads a field that has a fallback. -/
def Spelled.optional {α : Type} (s : Spelled) (read : Value → Checked α) (fallback : α)
    (entries : Entries) : Checked α :=
  match s.find entries with
  | some (name, v) => (read v).under (.field name)
  | none => .ok fallback

/-- Whether the field is held by an entry of this name. -/
def Spelled.takes (s : Spelled) (entries : Entries) (name : String) : Bool :=
  name == s.label || (name == s.plain && (Value.lookup s.label entries).isNone)

/-! ## Left-over entries -/

/-- The entries of a record that no field takes. -/
abbrev Extra := Fields

/-- The left-over entries among `rest`, a part of all `entries`. -/
def leftOverOf (fields : List Spelled) (entries : Entries) : Entries → Checked Extra
  | [] => .ok []
  | (.text name, v) :: rest =>
    if fields.any (·.takes entries name) then leftOverOf fields entries rest
    else (leftOverOf fields entries rest).map ((name, v) :: ·)
  | (k, _) :: rest =>
    Checked.seq (.faulty [⟨[.key k], .keyNotText⟩]) (leftOverOf fields entries rest)

/-- The entries that no field takes, in document order. -/
def leftOver (fields : List Spelled) (entries : Entries) : Checked Extra :=
  leftOverOf fields entries entries

/-- Reads the entries of a mapping; `model` names the record in the fault if it is none. -/
def record {α : Type} (model : String) (read : Entries → Checked α) : Value → Checked α
  | .mapping entries => read entries
  | _ => .fail (.notMapping model)

/-! ## Writing -/

/-- What happens to nulls when a record is written. -/
inductive Nulls where
  /-- an absent field and a left-over null are written as null -/
  | kept
  /-- neither is written -/
  | dropped
  deriving DecidableEq, Repr

/-- The mapping of a record: its fields under their labels, then its left-over entries.  Only the
record's own nulls are dropped; what lies inside a value is written as it is. -/
def writeRecord (nulls : Nulls) (fields : Fields) : Value :=
  Value.ofFields (match nulls with
    | .kept => fields
    | .dropped => fields.filter fun (_, v) => v != .null)

end QuestFlow

import QuestFlow.Document.Spelling

/-!
# Faults of a document

A document that does not fit the shape of a quest is refused with every fault that was found, each
at its place.  A fault is a cause and a path to the value at fault; the wording lives in
`Cause.message` alone, and `Fault.report` is the one text that a whole list of faults becomes.
-/

namespace QuestFlow

/-- One step of the path to a value. -/
inductive Step where
  /-- into a field, by the name that the document gave it -/
  | field (name : String)
  /-- into a list, counting from zero -/
  | index (i : Nat)
  /-- into a node that was read as the given variant -/
  | variant (tag : String)
  /-- to the key of an entry rather than its value -/
  | key (k : Key)
  deriving DecidableEq, Repr

/-- Why a value was refused. -/
inductive Cause where
  | missing
  | notText
  | tooLong (limit : Nat)
  | unmatched (pattern : String)
  | notInteger
  | notFinite
  | fractional
  | unreadableInteger
  | integerTooGreat
  | notList
  | notMapping (model : String)
  | unknownVariant
  | notOneOf (first : String) (others : List String)
  | keyNotText
  deriving DecidableEq, Repr

/-- A cause at a place. -/
structure Fault where
  /-- from the whole document down to the value at fault -/
  path : List Step
  cause : Cause
  deriving DecidableEq, Repr

/-- The text of a cause. -/
def Cause.message : Cause → String
  | .missing => "Field required"
  | .notText => "Input should be a valid string"
  | .tooLong limit => "String should have at most " ++ toString limit ++ " characters"
  | .unmatched pattern => "String should match pattern '" ++ pattern ++ "'"
  | .notInteger => "Input should be a valid integer"
  | .notFinite => "Input should be a finite number"
  | .fractional => "Input should be a valid integer, got a number with a fractional part"
  | .unreadableInteger =>
    "Input should be a valid integer, unable to parse string as an integer"
  | .integerTooGreat => "Unable to parse input string as an integer, exceeded maximum size"
  | .notList => "Input should be a valid list"
  | .notMapping model => "Input should be a valid dictionary or instance of " ++ model
  | .unknownVariant => "Unable to extract tag using discriminator _node_tag()"
  | .notOneOf first others =>
    "Input should be " ++
      String.intercalate " or " ((first :: others).map fun choice => "'" ++ choice ++ "'")
  | .keyNotText => "Keys should be strings"

/-- The text of a step: names as they are, numbers in digits, any other key as it is spelled (a
truth value is the number it stands for). -/
def Step.text : Step → String
  | .field name => name
  | .index i => toString i
  | .variant tag => tag
  | .key (.text s) => s
  | .key (.bool b) => if b then "1" else "0"
  | .key k => k.spelling

/-- The path with points between its steps, and then the message; the message alone for the whole
document. -/
def Fault.text (f : Fault) : String :=
  let place := String.intercalate "." (f.path.map Step.text)
  if place.isEmpty then f.cause.message else place ++ ": " ++ f.cause.message

/-- The fault seen from one level further out. -/
def Fault.under (step : Step) (f : Fault) : Fault := { f with path := step :: f.path }

/-- All faults of a document in one text. -/
def Fault.report (fs : List Fault) : String := String.intercalate "; " (fs.map Fault.text)

end QuestFlow

/-!
# Quest identifiers

A quest ID starts with a capital letter of ASCII, goes on with letters and digits of ASCII, points,
hyphens, underscores and colons, and has at most a hundred characters.

The same rule is applied at two gates that differ in one corner.  A document's ID has to be of that
form to its very last character (`isWellFormed`).  An ID that is asked for over the service may have
one line end after it (`admits`), because there the form only has to reach to the end of the last
line.
-/

namespace QuestFlow.QuestId

/-- The greatest number of characters of an ID. -/
def maxLength : Nat := 100

/-- The form of an ID in the notation of regular expressions, as messages quote it. -/
def pattern : String := "^[A-Z][A-Za-z0-9.\\-_:]*$"

/-- The first character of an ID. -/
def isInitial (c : Char) : Bool := 'A' ≤ c && c ≤ 'Z'

/-- Any later character of an ID. -/
def isPart (c : Char) : Bool :=
  ('A' ≤ c && c ≤ 'Z') || ('a' ≤ c && c ≤ 'z') || ('0' ≤ c && c ≤ '9') ||
  c == '.' || c == '-' || c == '_' || c == ':'

/-- Whether the characters have the form of an ID. -/
def isWellFormed : List Char → Bool
  | [] => false
  | c :: cs => isInitial c && cs.all isPart

/-- Whether the characters have the form of an ID, perhaps with one line end after it. -/
def admits (cs : List Char) : Bool :=
  isWellFormed cs || (cs.getLast? == some '\n' && isWellFormed cs.dropLast)

/-- Why an ID that was asked for is refused. -/
inductive Objection where
  | empty | tooLong | malformed
  deriving DecidableEq, Repr

/-- The text of an objection. -/
def Objection.message : Objection → String
  | .empty => "quest ID cannot be empty"
  | .tooLong => "quest ID exceeds maximum length of " ++ toString maxLength ++ " characters"
  | .malformed =>
    "quest ID must start with uppercase letter, followed by alphanumeric, " ++
      "dots, hyphens, underscores, or colons"

/-- The objection to an ID that was asked for, if there is one.  Its length is looked at before its
form. -/
def objection? (id : String) : Option Objection :=
  if id.isEmpty then some .empty
  else if id.length > maxLength then some .tooLong
  else if admits id.toList then none
  else some .malformed

example : isWellFormed "Main.Intro-1_a:b".toList = true := by decide
example : isWellFormed "main".toList = false ∧ isWellFormed "A b".toList = false := by decide
example : isWellFormed "Q1\n".toList = false ∧ admits "Q1\n".toList = true := by decide
example : admits "Q1\n\n".toList = false ∧ admits "\n".toList = false := by decide

end QuestFlow.QuestId

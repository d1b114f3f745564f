import QuestFlow.Document.Json
import QuestFlow.Path

/-!
# The content of files

What a file holds is known by what reading it gives: a document, or any fault that a decoder may
come to.  A file begins with nothing, with one document on one line, or with what no decoder takes;
and behind that stand the entries that a log has added to it, one JSON object a line.  The same
content is read in two ways: `Content.document` decodes the whole file as one document,
`Content.entries` decodes every line of a log.

No decoder is written down here, and none is assumed to be well-behaved.  Besides the two sorts of
faults that it is expected to have, it may come to a fault of any other sort, as it does over a date
that is none, and nobody answers for that.
-/

namespace QuestFlow

/-- The sort of a fault that a decoder comes to. -/
inductive FaultSort where
  /-- the bytes of the file are no text -/
  | encoding
  /-- the text is no document -/
  | malformed
  /-- anything else, by its name -/
  | other (name : String)
  deriving DecidableEq, Repr

/-- Why the content of a file cannot be decoded. -/
structure DecodeFault where
  sort : FaultSort
  /-- the message; between its parts stands the path of the file -/
  parts : List String
  deriving DecidableEq, Repr

namespace DecodeFault

/-- The message about content that cannot be decoded, in the file of the given path. -/
def message (path : Path) (f : DecodeFault) : String := path.text.intercalate f.parts

/-- Whether the fault is of a sort that is expected.  Whoever reads a file answers for these
faults. -/
def isExpected (f : DecodeFault) : Bool :=
  match f.sort with
  | .encoding | .malformed => true
  | .other _ => false

/-- A place in the file, behind its path.  Lines and columns count from one. -/
def place (line column : Nat) : String :=
  "\", line " ++ toString line ++ ", column " ++ toString column

/-- A second document starts on the given line. -/
def secondDocument (line : Nat) : DecodeFault where
  sort := .malformed
  parts := ["expected '<document start>', but found ('\x7b',)\n  in \"", place line 1]

/-- A text that goes on over two lines stands as a key. -/
def keyOfTwoLines (line column : Nat) : DecodeFault where
  sort := .malformed
  parts := ["mapping values are not allowed here\n  in \"", place line column]

/-- A line of a log holds no JSON value. -/
def lineNotJson : DecodeFault where
  sort := .other "JSONDecodeError"
  parts := ["Expecting value: line 1 column 1 (char 0)"]

end DecodeFault

/-- What a decoder comes to over a file that it does not take. -/
structure Undecodable where
  alone : DecodeFault
  /-- if a log has added entries -/
  extended : DecodeFault
  /-- if the file is read as a log -/
  asLog : DecodeFault
  deriving DecidableEq, Repr

/-- What a file begins with. -/
inductive Opening where
  /-- so many lines of comments, or nothing at all -/
  | blank (lines : Nat)
  /-- a document on one line.  A bare one is a word or a number without quotes, and goes on over the
  next line if there is one. -/
  | document (v : Value) (bare : Bool)
  | undecodable (faults : Undecodable)
  deriving DecidableEq, Repr

/-- Whether the JSON text of a value is a word or a number. -/
def isBareWord : Value → Bool
  | .null | .bool _ | .int _ | .float _ => true
  | .text _ | .list _ | .mapping _ => false

/-- What a file holds. -/
structure Content where
  opening : Opening
  /-- the entries that a log has added; the time, which an entry names first, is left out -/
  log : List Value := []
  deriving DecidableEq, Repr

namespace Content

/-- An empty file. -/
def empty : Content := { opening := .blank 0 }

/-- A file that holds the JSON text of a document. -/
def ofDocument (v : Value) : Content := { opening := .document v (isBareWord v) }

/-- The key under which a log entry names its time. -/
def timeKey : String := "timestamp"

/-- A log entry without its time. -/
def withoutTime : Value → Value
  | .mapping entries => .mapping (entries.filter fun (key, _) => key != .text timeKey)
  | v => v

/-- The column in which the colon behind the first key of a log entry stands. -/
def colonColumn : Nat := timeKey.length + 4

/-- The document that the whole file is.  A log entry is a document too, and no more than one fits
into a file. -/
def document (c : Content) : Except DecodeFault Value :=
  match c.opening, c.log with
  | .blank _, [] => .ok .null
  | .blank _, [entry] => .ok (Json.asDocument entry)
  | .blank lines, _ => .error (.secondDocument (lines + 2))
  | .document v _, [] => .ok v
  | .document _ true, _ => .error (.keyOfTwoLines 2 colonColumn)
  | .document _ false, _ => .error (.secondDocument 2)
  | .undecodable faults, [] => .error faults.alone
  | .undecodable faults, _ :: _ => .error faults.extended

/-- The entries of the log that the file is, without their times.  A document on the first line is
an entry if it is JSON. -/
def entries (c : Content) : Except DecodeFault (List Value) :=
  match c.opening with
  | .blank 0 => .ok c.log
  | .blank (_ + 1) => .error .lineNotJson
  | .document (.text _) true => .error .lineNotJson
  | .document v _ => .ok (withoutTime v :: c.log)
  | .undecodable faults => .error faults.asLog

/-- The content with one more log entry. -/
def append (c : Content) (entry : Value) : Content := { c with log := c.log ++ [entry] }

/-- Reading a document gives what was written. -/
@[simp] theorem document_ofDocument (v : Value) : (ofDocument v).document = .ok v := rfl

/-- An empty file is a log without entries. -/
@[simp] theorem entries_empty : empty.entries = .ok [] := rfl

example : (empty.append (.int 1)).document = .ok (.int 1) ∧
    ((empty.append .null).append .null).document = .error (.secondDocument 2) := ⟨rfl, rfl⟩
example : ((ofDocument (.list [])).append .null).document = .error (.secondDocument 2) ∧
    ((ofDocument .null).append .null).document = .error (.keyOfTwoLines 2 13) :=
  ⟨rfl, rfl⟩

end Content
end QuestFlow

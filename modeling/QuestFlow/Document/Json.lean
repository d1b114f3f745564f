import QuestFlow.Document.Value
import QuestFlow.Number.Decimal
import QuestFlow.Number.Written

/-!
# Values as JSON text

The log file holds one JSON object per line, and JSON is the part of the document format that this
library reads itself.  Reading goes in two passes, each a fold, so neither needs a bound on its
depth:

* `Json.tokens?` folds over the characters and keeps, besides the tokens found so far, only what it
  takes to finish the token under way;
* `Json.ofTokens?` folds over the tokens with a stack of the containers that are still open.

The entries of an object keep their order; a key given twice keeps its first place and its last
value.  Writing is `Json.text`: no blanks except after `:` and `,`, every character outside ASCII
by its number.  JSON has no keys but texts, so a key of another kind is written as the text that
spells it.
-/

namespace QuestFlow.Json

/-! ## Tokens -/

/-- The tokens of a JSON text. -/
inductive Token where
  | openList | closeList | openMapping | closeMapping | comma | colon
  | scalar (v : Value)
  | text (s : String)
  deriving DecidableEq, Repr

/-- What the reader is in the middle of. -/
inductive Mode where
  /-- between two tokens -/
  | between
  /-- in a number or a word; its characters so far, last one first -/
  | word (taken : List Char)
  /-- in a text; its characters so far, last one first, and the first half of a surrogate pair whose
  second half must follow -/
  | text (taken : List Char) (half : Option Nat)
  /-- after a backslash in a text -/
  | escape (taken : List Char) (half : Option Nat)
  /-- in the four digits of an escape: digits still to come and their value so far -/
  | number (taken : List Char) (half : Option Nat) (left value : Nat)

/-- The scalar that a number or word names. -/
def scalar? (word : List Char) : Option Value :=
  if word = "null".toList then some .null
  else if word = "true".toList then some (.bool true)
  else if word = "false".toList then some (.bool false)
  else if word = "NaN".toList then some (.float .nan)
  else if word = "Infinity".toList then some (.float (.infinity false))
  else if word = "-Infinity".toList then some (.float (.infinity true))
  else
    let digits := if word.head? = some '-' then word.drop 1 else word
    if digits.isEmpty then none
    else if digits.all Char.isDigit then
      let n : Int := Nat.ofDigitChars 10 digits 0
      some (.int (if word.head? = some '-' then -n else n))
    else if digits.head?.any Char.isDigit then
      (Binary64.ofText? (String.ofList word)).map .float
    else none

/-- The characters a number or word is made of. -/
def isWordChar (c : Char) : Bool := c.isAlphanum || c == '-' || c == '+' || c == '.'

/-- Adds a first half that its second half did not follow: it stands for no character. -/
def dropHalf (taken : List Char) : Option Nat → List Char
  | none => taken
  | some _ => '\ufffd' :: taken

/-- The value of a hexadecimal digit. -/
def hexDigit? (c : Char) : Option Nat :=
  if '0' ≤ c ∧ c ≤ '9' then some (c.toNat - 48)
  else if 'a' ≤ c ∧ c ≤ 'f' then some (c.toNat - 87)
  else if 'A' ≤ c ∧ c ≤ 'F' then some (c.toNat - 55)
  else none

/-- Takes in the number of an escape: half of a pair, the other half, or a character. -/
def takeUnit (taken : List Char) (half : Option Nat) (unit : Nat) : Mode :=
  if 0xd800 ≤ unit ∧ unit < 0xdc00 then .text (dropHalf taken half) (some unit)
  else if 0xdc00 ≤ unit ∧ unit < 0xe000 then
    match half with
    | some high =>
      .text (Char.ofNat (0x10000 + (high - 0xd800) * 0x400 + (unit - 0xdc00)) :: taken) none
    | none => .text ('\ufffd' :: taken) none
  else .text (Char.ofNat unit :: dropHalf taken half) none

/-- The character that an escape by letter stands for. -/
def escaped? : Char → Option Char
  | '"' => some '"'
  | '\\' => some '\\'
  | '/' => some '/'
  | 'b' => some '\x08'
  | 'f' => some '\x0c'
  | 'n' => some '\n'
  | 'r' => some '\r'
  | 't' => some '\t'
  | _ => none

/-- Begins a token with its first character, or skips a blank. -/
def begin? (found : List Token) : Char → Option (List Token × Mode)
  | '[' => some (.openList :: found, .between)
  | ']' => some (.closeList :: found, .between)
  | '\x7b' => some (.openMapping :: found, .between)
  | '\x7d' => some (.closeMapping :: found, .between)
  | ',' => some (.comma :: found, .between)
  | ':' => some (.colon :: found, .between)
  | '"' => some (found, .text [] none)
  | c =>
    if c == ' ' || c == '\t' || c == '\n' || c == '\r' then some (found, .between)
    else if isWordChar c then some (found, .word [c])
    else none

/-- Reads one character. -/
def step? (found : List Token) : Mode → Char → Option (List Token × Mode)
  | .between, c => begin? found c
  | .word taken, c =>
    if isWordChar c then some (found, .word (c :: taken))
    else (scalar? taken.reverse).bind fun v => begin? (.scalar v :: found) c
  | .text taken half, c =>
    if c = '"' then some (.text (String.ofList (dropHalf taken half).reverse) :: found, .between)
    else if c = '\\' then some (found, .escape taken half)
    else some (found, .text (c :: dropHalf taken half) none)
  | .escape taken half, c =>
    if c = 'u' then some (found, .number taken half 4 0)
    else (escaped? c).map fun e => (found, .text (e :: dropHalf taken half) none)
  | .number taken half left value, c =>
    (hexDigit? c).map fun d =>
      let value := value * 16 + d
      (found, if left ≤ 1 then takeUnit taken half value else .number taken half (left - 1) value)

/-- The tokens of a text, if it is made of tokens. -/
def tokens? (s : String) : Option (List Token) :=
  (s.toList.foldlM (fun (found, mode) c => step? found mode c) (([], Mode.between))).bind
    fun (found, mode) => match mode with
      | .between => some found.reverse
      | .word taken => (scalar? taken.reverse).map fun v => (Token.scalar v :: found).reverse
      | _ => none

/-! ## Values from tokens -/

/-- A container that is still open; what it holds so far, last first. -/
inductive Frame where
  | list (items : List Value)
  | mapping (entries : Entries)
  | entry (entries : Entries) (key : String)

/-- What may come next. -/
inductive Need where
  | value | valueOrClose | key | keyOrClose | colon | separator
  deriving DecidableEq

/-- The open containers, innermost first, and what may come next; or the finished value. -/
inductive Progress where
  | within (stack : List Frame) (need : Need)
  | finished (v : Value)

/-- Sets the value of a key: in its place if there is one, at the end otherwise. -/
def put (key : Key) (value : Value) : Entries → Entries
  | [] => [(key, value)]
  | (k, v) :: es => if k.sameAs key then (k, value) :: es else (k, v) :: put key value es

/-- The entries with each key once, in the place of its first mention and with its last value. -/
def settle (entries : Entries) : Entries :=
  entries.foldl (fun es (k, v) => put k v es) []

/-- Puts a finished value into the innermost open container. -/
def place (v : Value) : List Frame → Option Progress
  | [] => some (.finished v)
  | .list items :: rest => some (.within (.list (v :: items) :: rest) .separator)
  | .entry entries key :: rest =>
    some (.within (.mapping ((.text key, v) :: entries) :: rest) .separator)
  | .mapping _ :: _ => none

/-- Closes the innermost open container. -/
def close (token : Token) : List Frame → Option Progress
  | .list items :: rest => if token = .closeList then place (.list items.reverse) rest else none
  | .mapping entries :: rest =>
    if token = .closeMapping then place (.mapping (settle entries.reverse)) rest else none
  | _ => none

/-- Begins a value with its first token. -/
def beginValue (stack : List Frame) : Token → Option Progress
  | .scalar v => place v stack
  | .text s => place (.text s) stack
  | .openList => some (.within (.list [] :: stack) .valueOrClose)
  | .openMapping => some (.within (.mapping [] :: stack) .keyOrClose)
  | _ => none

/-- Begins an entry with its key. -/
def beginEntry (stack : List Frame) : Token → Option Progress
  | .text s => match stack with
    | .mapping entries :: rest => some (.within (.entry entries s :: rest) .colon)
    | _ => none
  | _ => none

/-- Reads one token. -/
def advance? : Progress → Token → Option Progress
  | .finished _, _ => none
  | .within stack .value, t => beginValue stack t
  | .within stack .valueOrClose, t =>
    if t = .closeList then close t stack else beginValue stack t
  | .within stack .key, t => beginEntry stack t
  | .within stack .keyOrClose, t =>
    if t = .closeMapping then close t stack else beginEntry stack t
  | .within stack .colon, t => if t = .colon then some (.within stack .value) else none
  | .within stack .separator, t =>
    if t = .comma then
      match stack with
      | .list _ :: _ => some (.within stack .value)
      | .mapping _ :: _ => some (.within stack .key)
      | _ => none
    else close t stack

/-- The value that the tokens spell. -/
def ofTokens? (ts : List Token) : Option Value :=
  (ts.foldlM advance? (.within [] .value)).bind fun
    | .finished v => some v
    | _ => none

/-- The value that a text spells. -/
def read? (s : String) : Option Value := (tokens? s).bind ofTokens?

/-! ## Writing -/

/-- A 16-bit unit by its number. -/
def unitEscape (n : Nat) : List Char :=
  let digits := Nat.toDigits 16 n
  '\\' :: 'u' :: (List.replicate (4 - digits.length) '0' ++ digits)

/-- One character of a text. -/
def charText (c : Char) : List Char :=
  if c = '"' then ['\\', '"']
  else if c = '\\' then ['\\', '\\']
  else if c = '\n' then ['\\', 'n']
  else if c = '\r' then ['\\', 'r']
  else if c = '\t' then ['\\', 't']
  else if c = '\x08' then ['\\', 'b']
  else if c = '\x0c' then ['\\', 'f']
  else
    let n := c.toNat
    if 0x20 ≤ n ∧ n < 0x7f then [c]
    else if n < 0x10000 then unitEscape n
    else unitEscape (0xd800 + (n - 0x10000) / 0x400) ++ unitEscape (0xdc00 + (n - 0x10000) % 0x400)

/-- A text between quotes. -/
def quoted (s : String) : String :=
  String.ofList ('"' :: s.toList.flatMap charText ++ ['"'])

/-- A number with a fraction; the values that are no numbers have words of their own. -/
def floatText (x : Binary64) : String :=
  if x.isNaN then "NaN"
  else if x.isFinite then x.text
  else if x.isNegative then "-Infinity" else "Infinity"

/-- The text that stands for a key. -/
def keyText : Key → String
  | .null => "null"
  | .bool b => if b then "true" else "false"
  | .int n => toString n
  | .float x => floatText x
  | .text s => s

mutual

/-- The JSON text of a value. -/
def text : Value → String
  | .null => "null"
  | .bool b => if b then "true" else "false"
  | .int n => toString n
  | .float x => floatText x
  | .text s => quoted s
  | .list items => "[" ++ String.intercalate ", " (itemTexts items) ++ "]"
  | .mapping entries => "\x7b" ++ String.intercalate ", " (entryTexts entries) ++ "\x7d"

/-- The texts of the members of a list. -/
def itemTexts : List Value → List String
  | [] => []
  | v :: vs => text v :: itemTexts vs

/-- The texts of the entries of a mapping. -/
def entryTexts : List (Key × Value) → List String
  | [] => []
  | (k, v) :: es => (quoted (keyText k) ++ ": " ++ text v) :: entryTexts es

end

/-! ## What can be written -/

mutual

/-- Whether a value can be written: none of the numbers in it, keys among them, has too many
digits. -/
def isWritable : Value → Bool
  | .int n => IntegerText.isWritable n
  | .list items => itemsWritable items
  | .mapping entries => entriesWritable entries
  | .null | .bool _ | .float _ | .text _ => true

/-- Whether the members of a list can be written. -/
def itemsWritable : List Value → Bool
  | [] => true
  | v :: vs => isWritable v && itemsWritable vs

/-- Whether the entries of a mapping can be written. -/
def entriesWritable : List (Key × Value) → Bool
  | [] => true
  | (.int n, v) :: es => IntegerText.isWritable n && isWritable v && entriesWritable es
  | (_, v) :: es => isWritable v && entriesWritable es

end

/-! ## What reading back gives -/

mutual

/-- The value that the JSON text of a value spells: every key is a text. -/
def asRead : Value → Value
  | .list items => .list (itemsAsRead items)
  | .mapping entries => .mapping (settle (entriesAsRead entries))
  | v => v

/-- The members of a list, as read back. -/
def itemsAsRead : List Value → List Value
  | [] => []
  | v :: vs => asRead v :: itemsAsRead vs

/-- The entries of a mapping, as read back. -/
def entriesAsRead : List (Key × Value) → List (Key × Value)
  | [] => []
  | (k, v) :: es => (.text (keyText k), asRead v) :: entriesAsRead es

end

/-! ## JSON text as a document -/

mutual

/-- What the JSON text of a value is as a document: there the words for numbers that are not finite
are texts like any other. -/
def asDocument : Value → Value
  | .float x => if x.isFinite then .float x else .text (floatText x)
  | .list items => .list (itemsAsDocument items)
  | .mapping entries => .mapping (entriesAsDocument entries)
  | v => v

/-- The members of a list, as in a document. -/
def itemsAsDocument : List Value → List Value
  | [] => []
  | v :: vs => asDocument v :: itemsAsDocument vs

/-- The entries of a mapping, as in a document. -/
def entriesAsDocument : List (Key × Value) → List (Key × Value)
  | [] => []
  | (k, v) :: es => (k, asDocument v) :: entriesAsDocument es

end

example : text (.ofFields [("a\"é", .list [.int (-1), .null])]) =
    "\x7b\"a\\\"\\u00e9\": [-1, null]\x7d" := by decide +kernel
example : read? " [true, \"\\ud83d\\ude00\"] " = some (.list [.bool true, .text "😀"]) := by
  decide +kernel
example : read? "[1,]" = none ∧ read? "\x7b\"a\" 1\x7d" = none := by decide +kernel

end QuestFlow.Json

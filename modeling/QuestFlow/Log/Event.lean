import QuestFlow.Document.Value
import QuestFlow.Path

/-!
# Log events

Functions that do the program's work say what happened by events: a name in snake case and a
context of keys and values.  An event is a value like any other.  A computation that logs is a
value together with its events (`Logged`), and what becomes of the events is decided where they
are recorded.
-/

namespace QuestFlow

/-- How much an event matters. -/
inductive Level where
  | debug | info | warning | error | critical
  deriving DecidableEq, Repr

namespace Level

/-- The number of a level; a greater one matters more. -/
def number : Level → Nat
  | .debug => 10
  | .info => 20
  | .warning => 30
  | .error => 40
  | .critical => 50

/-- The name in log entries. -/
def name : Level → String
  | .debug => "DEBUG"
  | .info => "INFO"
  | .warning => "WARNING"
  | .error => "ERROR"
  | .critical => "CRITICAL"

/-- All levels. -/
def all : List Level := [.debug, .info, .warning, .error, .critical]

end Level

/-- Something that happened. -/
structure Event where
  level : Level
  /-- the part of the program that says so -/
  logger : String
  name : String
  /-- what it says about it, in order -/
  context : Fields
  deriving DecidableEq, Repr

/-- A value and the events that led to it, in order. -/
structure Logged (α : Type) where
  value : α
  events : List Event
  deriving Repr

namespace Logged

variable {α β : Type}

/-- A value without events. -/
def quiet (a : α) : Logged α := ⟨a, []⟩

/-- Goes on with a value; the events of both parts are kept. -/
def andThen (a : Logged α) (f : α → Logged β) : Logged β :=
  let b := f a.value
  ⟨b.value, a.events ++ b.events⟩

/-- A single event. -/
def say (e : Event) : Logged Unit := ⟨(), [e]⟩

/-- Goes on with a value if there is one; an error ends the computation, and its events are kept. -/
def andThenOk {ε : Type} (a : Logged (Except ε α)) (f : α → Logged (Except ε β)) :
    Logged (Except ε β) :=
  a.andThen fun
    | .ok a => f a
    | .error e => quiet (.error e)

/-- The same computation, with its error told in another way. -/
def mapError {ε ε' : Type} (f : ε → ε') (a : Logged (Except ε α)) : Logged (Except ε' α) :=
  ⟨a.value.mapError f, a.events⟩

/-- The same value with more events after it. -/
def also (a : Logged α) (events : List Event) : Logged α := ⟨a.value, a.events ++ events⟩

end Logged

/-! ## The quest at hand -/

/-- The keys that name the quest at hand and the file it comes from. -/
def questContext (quest : String) (source : Option Path) : Fields :=
  ("quest_id", .text quest) ::
    match source with
    | some p => [("source", .text p.text)]
    | none => []

/-- The event with more context.  What an event says itself comes before what surrounds it: a key
that it has already keeps its value. -/
def Event.inContext (surrounding : Fields) (e : Event) : Event :=
  { e with context := e.context ++
      surrounding.filter fun (key, _) => !(e.context.map (·.1)).contains key }

end QuestFlow

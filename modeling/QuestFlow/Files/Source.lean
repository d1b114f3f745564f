import QuestFlow.Catalog
import QuestFlow.Files.Tree
import QuestFlow.Number.Written

/-!
# Sources that cannot be used

A quest that cannot be read is one broken file among others.  A directory or a catalog file that
cannot be read stops a run before any quest is looked at, and that is what a source error says.

A source error is an answer, and whoever asked for the work can pass it on.  The work can also break
down, over something that nobody answers for: then it just ends.
-/

namespace QuestFlow

/-- Why a source cannot be used. -/
inductive SourceCause where
  | directoryMissing
  | notDirectory
  /-- a catalog file is no list -/
  | notList
  /-- an entry of a catalog file is no mapping; entries count from zero -/
  | entryNotMapping (index : Nat)
  | unreadable (fault : ReadFault)
  /-- something in a directory cannot be looked up -/
  | unreachable (inside : Path) (fault : PathFault)
  deriving DecidableEq, Repr

/-- Which source cannot be used. -/
inductive SourceRole where
  | quests
  /-- the data directory as a whole, or the catalog of one kind -/
  | catalog (kind : Option EntityKind)
  deriving DecidableEq, Repr

/-- A source that cannot be used. -/
structure SourceError where
  role : SourceRole
  path : Path
  cause : SourceCause
  deriving DecidableEq, Repr

namespace SourceError

/-- The reason in the message. -/
def reason (e : SourceError) : String :=
  match e.cause with
  | .directoryMissing => "directory not found"
  | .notDirectory => "not a directory"
  | .notList => "expected a list of entries"
  | .entryNotMapping index => "entry " ++ toString index ++ " is not a mapping"
  | .unreadable fault => fault.message e.path
  | .unreachable inside fault => fault.message inside

/-- The message. -/
def message (e : SourceError) : String :=
  let what := match e.role with
    | .quests => "read quests"
    | .catalog none => "load reference data"
    | .catalog (some kind) => "load " ++ kind.name ++ " catalog"
  "Failed to " ++ what ++ " at " ++ e.path.text ++ ": " ++ e.reason

end SourceError

/-- Why work breaks down. -/
inductive Breakdown where
  /-- it cannot be found out whether a path leads anywhere, or no file can be asked for by it -/
  | path (p : Path) (fault : PathFault)
  /-- a decoder comes to a fault that nobody expects -/
  | decoder (p : Path) (fault : DecodeFault)
  /-- a search below a directory would go down too far -/
  | tooDeep (dir : Path)
  /-- a number cannot be written out -/
  | number (e : TooManyDigits)
  deriving DecidableEq, Repr

/-- The message about it. -/
def Breakdown.message : Breakdown → String
  | .path p fault => fault.message p
  | .decoder p fault => fault.message p
  | .tooDeep _ => "maximum recursion depth exceeded"
  | .number e => e.message

/-- Why work comes to no result. -/
inductive Failure where
  | source (e : SourceError)
  | breakdown (b : Breakdown)
  deriving DecidableEq, Repr

/-- The breakdown over a file that cannot be read, if reading it breaks down.  A path with a zero
byte names no file at all, and only the faults that are expected of a decoder are answered for. -/
def ReadFault.breakdown? (p : Path) : ReadFault → Option Breakdown
  | .path .zeroByte => some (.path p .zeroByte)
  | .undecodable fault => if fault.isExpected then none else some (.decoder p fault)
  | .path _ | .isDirectory => none

/-- The place of a directory that has to be there. -/
def FileTree.directory (t : FileTree) (role : SourceRole) (p : Path) : Except Failure Place :=
  match t.resolve p with
  | .error fault =>
    if fault.isAbsence then .error (.source ⟨role, p, .directoryMissing⟩)
    else .error (.breakdown (.path p fault))
  | .ok place =>
    if t.isDirectoryAt place then .ok place else .error (.source ⟨role, p, .notDirectory⟩)

end QuestFlow

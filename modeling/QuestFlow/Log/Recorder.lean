import QuestFlow.Document.Json
import QuestFlow.Files.Change
import QuestFlow.Log.Event

/-!
# Recording events

The recorder decides what becomes of an event.  Its configuration says from which level on events
are let through at all (`threshold`), from which level on the console shows them, and whether
there is a log file.  While a log file is open, every event that is let through becomes one entry
of it, unless there is a number in it that cannot be written: then its line is lost.

Two things outlive a configuration.  The directory of the last log file stays known after the file
has been closed.  And each part of the program that logs fixes its own level at its first event:
it keeps the threshold that was in force then, whatever is configured later.
-/

namespace QuestFlow

/-- An open log file. -/
structure OpenLog where
  place : Place
  /-- whether the file is still in its directory; what is written to a file that was removed is
  lost -/
  linked : Bool := true
  deriving DecidableEq, Repr

/-- What becomes of events. -/
structure Recorder where
  /-- the least level that is let through -/
  threshold : Level := .warning
  /-- the least level that the console shows -/
  console : Level := .warning
  /-- the directory of the last log file -/
  directory : Option Path := none
  openLog : Option OpenLog := none
  /-- the level that each logger fixed at its first event -/
  fixed : List (String × Level) := []
  deriving DecidableEq, Repr

/-- The logger above all others; events of no named logger are its own. -/
def topLogger : String := "root"

/-- The name of a log file. -/
def logFileName : String := "debug.jsonl"

/-- Loggers of other programs that would flood the log; they are held at warnings. -/
def noisyLoggers : List String := ["httpx", "httpcore", "asyncio", "uvicorn.access", "multipart"]

/-- Why logging cannot be configured. -/
inductive LogError where
  /-- a log file is asked for and no directory is given -/
  | directoryMissing
  /-- the directory cannot be made, or the file in it cannot be opened; the path of the file is
  absolute then -/
  | unwritable (fault : WriteFault)
  deriving DecidableEq, Repr

/-- The message about it. -/
def LogError.message : LogError → String
  | .directoryMissing => "logs_dir is required when log_to_file=True"
  | .unwritable fault => fault.message

namespace Recorder

/-- The level of the console: warnings, with one degree of verbosity information too, and with any
other degree everything. -/
def consoleLevel (verbosity : Int) : Level :=
  if verbosity = 0 then .warning else if verbosity = 1 then .info else .debug

/-- The recorder without its log file. -/
def close (r : Recorder) : Recorder := { r with openLog := none }

/-- Opens the log file in a directory that is there, by its absolute path.  What the file holds
already stays. -/
def openAt (r : Recorder) (t : FileTree) (dir : Place) : Recorder × FileTree × Option LogError :=
  let place := dir ++ [logFileName]
  let p := Path.ofPlace place
  match t.find? p with
  | .error fault => (r, t, some (.unwritable ⟨p, .path fault⟩))
  | .ok _ => match t.entry? place with
    | some .directory => (r, t, some (.unwritable ⟨p, .isDirectory⟩))
    | some (.file _) => ({ r with openLog := some { place } }, t, none)
    | none => ({ r with openLog := some { place } }, t.put place (.file .empty), none)

/-- Opens the log file in a directory, which is made if it is not there: the recorder that has it
open, and the tree with the file in it. -/
def openIn (r : Recorder) (t : FileTree) (dir : Path) :
    Recorder × FileTree × Option LogError :=
  match t.makeDirectory dir with
  | (.error fault, t) => (r, t, some (.unwritable fault))
  | (.ok place, t) => openAt { r with directory := some dir } t place

/-- Configures logging.  A log file that is open is closed first.  If logging cannot be configured,
the levels stay as they were. -/
def configure (r : Recorder) (t : FileTree) (verbosity : Int) (toFile : Bool) (dir : Option Path) :
    Recorder × FileTree × Option LogError :=
  let level (r : Recorder) : Recorder :=
    { r with
      threshold := if verbosity > 0 || toFile then .debug else .warning
      console := consoleLevel verbosity }
  match toFile, dir with
  | false, _ => (level r.close, t, none)
  | true, none => (r, t, some .directoryMissing)
  | true, some dir => match openIn r.close t dir with
    | (r, t, none) => (level r, t, none)
    | (r, t, some e) => (r, t, some e)

/-! ## Entries -/

/-- The keys that the recorder writes itself, and that no event can set. -/
def reservedKeys : List String := ["level", Content.timeKey]

/-- The fields of an event: level, logger and message, and then its context.  The context may name
another logger or message. -/
def entryFields (e : Event) : Entries :=
  let head : Entries :=
    [(.text "level", .text e.level.name), (.text "logger", .text e.logger),
      (.text "message", .text e.name)]
  let context := e.context.filter fun (key, _) => !reservedKeys.contains key
  context.foldl (fun es (key, value) => Json.put (.text key) value es) head

/-- The entry of an event. -/
def entry (e : Event) : Value := Json.asRead (.mapping (entryFields e))

/-- Whether an event can be written into a log file. -/
def isWritable (e : Event) : Bool := Json.isWritable (.mapping (entryFields e))

/-- Adds the entry of an event to the open log file, if one is open.  What cannot be written leaves
nothing behind, and is not missed. -/
def append (r : Recorder) (t : FileTree) (e : Event) : FileTree :=
  match r.openLog with
  | some log => if log.linked && isWritable e then t.appendLog log.place (entry e) else t
  | none => t

/-! ## Levels -/

/-- The names that a logger's name is under: itself, and what stands before each of its points. -/
def ancestors (logger : String) : List String :=
  let cs := logger.toList
  logger :: ((List.range cs.length).filter fun i => cs[i]? == some '.').map fun i =>
    String.ofList (cs.take i)

/-- The least level that is let through for a logger. -/
def thresholdOf (r : Recorder) (logger : String) : Level :=
  if (ancestors logger).any noisyLoggers.contains then .warning else r.threshold

/-- Records an event of a logger that has fixed no level. -/
def record (r : Recorder) (t : FileTree) (e : Event) : FileTree :=
  if (r.thresholdOf e.logger).number ≤ e.level.number then r.append t e else t

/-- The recorder after the first event of a logger: the threshold in force is fixed for it. -/
def fix (r : Recorder) (logger : String) : Recorder :=
  match r.fixed.lookup logger with
  | some _ => r
  | none => { r with fixed := r.fixed ++ [(logger, r.threshold)] }

/-- The level that a logger has fixed. -/
def fixedLevel (r : Recorder) (logger : String) : Level :=
  (r.fixed.lookup logger).getD r.threshold

/-- Records an event of a part of this program: it has to pass the level that the part has fixed,
and the threshold. -/
def recordOwn (r : Recorder) (t : FileTree) (e : Event) : Recorder × FileTree :=
  let r := r.fix e.logger
  (r, if (r.fixedLevel e.logger).number ≤ e.level.number then r.record t e else t)

/-- Records events of this program, one after another. -/
def recordAll (r : Recorder) (t : FileTree) : List Event → Recorder × FileTree
  | [] => (r, t)
  | e :: es =>
    let (r, t) := r.recordOwn t e
    recordAll r t es

/-- The recorder after files were removed: a log file among them is no longer in its directory. -/
def afterRemoval (r : Recorder) (removed : Place) : Recorder :=
  { r with openLog := r.openLog.map fun log =>
      { log with linked := log.linked && !removed.isPrefixOf log.place } }

end Recorder
end QuestFlow

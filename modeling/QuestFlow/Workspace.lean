import QuestFlow.Command.Run
import QuestFlow.Log.Recorder
import QuestFlow.Service

/-!
# Workspaces

A workspace is a file tree together with the state of logging: all that one run of the program can
leave to the next.  Everything the program does in a workspace gives a value and a workspace, in
which the events on the way have been recorded.
-/

namespace QuestFlow

/-- The files, and what becomes of events. -/
structure Workspace where
  files : FileTree
  log : Recorder := {}
  deriving DecidableEq, Repr

/-- Something that is said in the log from outside this program. -/
structure Remark where
  /-- the logger that it is for; empty for that above all others -/
  logger : String
  level : Level
  text : String
  context : Fields := []
  /-- the quest that is at hand, and its file -/
  about : Option (String × Option Path) := none
  deriving DecidableEq, Repr

namespace Workspace

variable {α : Type}

/-- The value of a computation, and the workspace in which its events are recorded. -/
def hear (w : Workspace) (l : Logged α) : α × Workspace :=
  let (log, files) := w.log.recordAll w.files l.events
  (l.value, { files, log })

/-! ## Files -/

/-- The workspace of the given directory, with the given documents written into it in turn. -/
def ofDocuments (here : Place) (documents : List (Path × Value)) :
    Except WriteFault Workspace :=
  (documents.foldlM (fun (t : FileTree) (p, v) =>
    let (written, t) := t.write p (.file (.ofDocument v))
    written.map fun _ => t) { here }).map fun files => { files }

/-- Writes a file or makes a directory. -/
def write (w : Workspace) (p : Path) (e : FileEntry) :
    Except WriteFault Unit × Workspace :=
  let (written, files) := w.files.write p e
  (written, { w with files })

/-- Removes a file, or a directory with all that is in it; says whether there was one. -/
def remove (w : Workspace) (p : Path) : Except WriteFault Bool × Workspace :=
  match w.files.resolve p with
  | .ok place =>
    let (removed, files) := w.files.remove p place
    (removed.map fun _ => true, { files, log := w.log.afterRemoval place })
  | .error fault => (if fault.isAbsence then .ok false else .error ⟨p, .path fault⟩, w)

/-! ## The program's work -/

/-- Loads the quests of a directory. -/
def loadQuests (w : Workspace) (dir : Path) : Except Failure LoadedQuests × Workspace :=
  w.hear (w.files.loadQuests dir)

/-- The IDs of the quests of a directory. -/
def questIds (w : Workspace) (dir : Path) : Except Failure (List String) × Workspace :=
  w.hear (w.files.questIds dir)

/-- Loads the catalog of a data directory. -/
def loadCatalog (w : Workspace) (dir : Path) : Except Failure Catalog × Workspace :=
  w.hear (w.files.loadCatalog dir)

/-- Loads a single catalog file. -/
def loadIds (w : Workspace) (kind : EntityKind) (p : Path) (key : String) :
    Except Failure (List String) × Workspace :=
  w.hear (w.files.loadIds kind p key)

/-- Checks a repository. -/
def check (w : Workspace) (settings : Settings) : Except Failure Report × Workspace :=
  w.hear (w.files.check settings)

/-- Answers a request to a service that was started with the given settings, or with those of the
environment. -/
def respond (w : Workspace) (settings : Option Settings) (env : Environment) (r : Request) :
    Response × Workspace :=
  w.hear (Service.respond w.files (settings.getD (({} : Settings).withEnvironment env)) r)

/-! ## Logging -/

/-- Configures logging. -/
def configureLog (w : Workspace) (verbosity : Int) (toFile : Bool) (dir : Option Path) :
    Except LogError Unit × Workspace :=
  match w.log.configure w.files verbosity toFile dir with
  | (log, files, none) => (.ok (), { files, log })
  | (log, files, some e) => (.error e, { files, log })

/-- Closes the log file. -/
def closeLog (w : Workspace) : Workspace := { w with log := w.log.close }

/-- Records a remark from outside. -/
def remark (w : Workspace) (r : Remark) : Workspace :=
  let event : Event :=
    { level := r.level, logger := if r.logger.isEmpty then topLogger else r.logger
      name := r.text, context := r.context }
  let event := match r.about with
    | some (quest, source) => event.inContext (questContext quest source)
    | none => event
  { w with files := w.log.record w.files event }

/-! ## Commands -/

/-- The directory of the log file that a command writes. -/
def commandLogs : Path := ⟨.here, ["logs"]⟩

/-- Runs a command line: the general options configure logging, and then the command runs.  A path
with a zero byte is refused before the command runs. -/
def command (w : Workspace) (args : List String) (env : Environment) : CommandOutcome × Workspace :=
  match General.read? args with
  | none => (.ok Command.misuse, w)
  | some g => match g.rest with
    | [] => (.ok Command.misuse, w)
    | name :: rest =>
      if !Command.names.contains name then (.ok Command.misuse, w)
      else
        let dir := if g.logToFile then some commandLogs else none
        match w.configureLog g.verbosity g.logToFile dir with
        | (.error fault, w) => (.error (.log fault), w)
        | (.ok _, w) => match Command.read? name rest with
          | none => (.ok Command.misuse, w)
          | some c => match c.paths.find? (·.hasZeroByte) with
            | some p => (.error (.work (.path p .zeroByte)), w)
            | none => w.hear (c.run w.files env)

end Workspace
end QuestFlow

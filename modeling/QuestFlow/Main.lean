import QuestFlow.Document.Json
import QuestFlow.Workspace

/-!
# The command line

`main` runs one command in the directory it is started from.  The documents of that directory are
handed over on standard input, already decoded: one JSON object from paths to documents, so any
store that can list its documents can feed the program.  A blank input is an empty directory.

What the command prints goes to standard output and standard error.  With `--log`, the entries of
the log file follow on standard error, one JSON object a line.  All decisions are made by
`Workspace.command`; this module only reads, calls and prints.
-/

namespace QuestFlow

/-- The documents that a text lists under their paths; none if it is no such list. -/
def documents? (text : String) : Option (List (Path × Value)) :=
  if text.toList.all Text.isBlank then some []
  else match Json.read? text with
    | some (.mapping entries) => some (entries.filterMap fun
      | (.text path, document) => some (.ofText path, document)
      | _ => none)
    | _ => none

/-- The lines of the log file that a command has written. -/
def logLines (w : Workspace) : List String :=
  match w.files.readLog (Workspace.commandLogs.child logFileName) with
  | .ok (some entries) => entries.map Json.text
  | _ => []

/-- Everything that is left on a stream, behind what was read before. -/
partial def readRest (stream : IO.FS.Stream) (before : String) : IO String := do
  let line ← stream.getLine
  if line.isEmpty then return before else readRest stream (before ++ line)

/-- The settings that the environment gives. -/
def readEnvironment : IO Environment := do
  let questsDir ← IO.getEnv "QL_QUESTS_DIR"
  let dataDir ← IO.getEnv "QL_DATA_DIR"
  let journalChecks ← IO.getEnv "QL_JOURNAL_CHECKS"
  return { questsDir, dataDir, journalChecks }

/-- Runs a command over the documents on standard input; gives the exit code. -/
def runCommand (args : List String) : IO UInt32 := do
  let here := (Path.ofText ((← IO.getEnv "PWD").getD "/")).parts
  let input ← readRest (← IO.getStdin) ""
  match (documents? input).map (Workspace.ofDocuments here) with
  | some (.ok w) =>
    let (outcome, w) := w.command args (← readEnvironment)
    match outcome with
      | .ok result =>
        IO.print result.stdout
        IO.eprint result.stderr
      | .error e => IO.eprintln e.message
    for line in logLines w do IO.eprintln line
    return outcome.exitCode.toUInt32
  | _ =>
    IO.eprintln "standard input does not list documents by their paths"
    return 2

end QuestFlow

def main (args : List String) : IO UInt32 := QuestFlow.runCommand args

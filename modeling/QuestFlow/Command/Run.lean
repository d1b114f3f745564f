import QuestFlow.Command.Arguments
import QuestFlow.Console.Output
import QuestFlow.Files.Checking
import QuestFlow.Files.SettingsFile
import QuestFlow.Log.Recorder

/-!
# Running commands

* `check` checks the whole repository and prints the lines of the report and the summary below;
* `validate` checks a single file against the rules about one quest;
* `version` says which version this is.

The exit code is 0 if all is well, 1 if anything was reported, and 2 if the settings, the catalog
or the quests cannot be used or the command line is not in order.  A command whose work breaks down,
or whose log cannot be opened, gives no result of its own; it exits with 1 all the same.
-/

namespace QuestFlow

/-- What a command leaves behind for its caller. -/
structure CommandResult where
  exit : Nat
  stdout : String := ""
  stderr : String := ""
  deriving DecidableEq, Repr

/-- Why a command gives no result. -/
inductive CommandFault where
  | work (b : Breakdown)
  | log (fault : LogError)
  deriving DecidableEq, Repr

/-- The message about it. -/
def CommandFault.message : CommandFault → String
  | .work b => b.message
  | .log fault => fault.message

/-- What comes of a command. -/
abbrev CommandOutcome := Except CommandFault CommandResult

/-- The exit code of a command. -/
def CommandOutcome.exitCode : CommandOutcome → Nat
  | .ok result => result.exit
  | .error _ => 1

namespace Command

/-- The line between the issues and the summary. -/
def separator : String := String.ofList (List.replicate 40 '-')

/-- The name and version of the program. -/
def versionLine : String := "questlint v0.1.0"

/-- The result of a command that cannot do its work. -/
def failure (message : String) : CommandResult :=
  { exit := 2, stderr := Console.markedLine "Error:" message }

/-- The result of a command line that is not in order; what is said about it is no part of the
result. -/
def misuse : CommandResult := { exit := 2 }

/-- What comes of a command whose work comes to no result. -/
def workFailure : Failure → CommandOutcome
  | .source e => .ok (failure e.message)
  | .breakdown b => .error (.work b)

/-- What comes of a command that the settings keep from its work. -/
def settingsFailure (e : SettingsError) : CommandOutcome :=
  match e.cause with
  | .unsearchable fault => .error (.work (.path e.path fault))
  | _ => .ok (failure e.message)

/-- What `check` prints about a report. -/
def reportLines (quiet : Bool) (r : Report) : List String :=
  if r.questsChecked = 0 ∧ r.brokenFiles = [] then
    if quiet then [] else ["No quests found."]
  else r.lines ++ if quiet then [] else [separator, r.summary]

/-- The exit code of `check`: a repository without any quest is in order. -/
def reportExit (r : Report) : Nat :=
  if r.questsChecked = 0 ∧ r.brokenFiles = [] then 0 else r.exitCode

/-- What comes of `check` with a report.  All lines are written before the first is printed. -/
def reportOutcome (quiet : Bool) (r : Report) : CommandOutcome :=
  match r.writtenLines with
  | .error e => .error (.work (.number e))
  | .ok _ => .ok { exit := reportExit r, stdout := Console.plainLines (reportLines quiet r) }

/-- Runs `check`. -/
def runCheck (t : FileTree) (env : Environment) (a : CheckArguments) : Logged CommandOutcome :=
  match t.loadSettings a.settings (.ofPlace t.here) env with
  | .error e => .quiet (settingsFailure e)
  | .ok settings =>
    let settings := settings.withOverrides
      { questsDir := a.quests, dataDir := a.data
        journalChecks := if a.noJournal then some false else none }
    (t.check settings).andThen fun
      | .error e => .quiet (workFailure e)
      | .ok r => .quiet (reportOutcome a.quiet r)

/-- What `validate` prints about a quest that is in order. -/
def validLine (id : String) : String := "✓ " ++ id ++ " is valid"

/-- What comes of `validate` about a quest with the given issues. -/
def issuesOutcome (id : String) (issues : List Issue) : Logged CommandOutcome :=
  if issues.isEmpty then .quiet (.ok { exit := 0, stdout := Console.plainLine (validLine id) })
  else match Issue.writtenLines (issues.map (·.inQuest id)) with
    | .error e => .quiet (.error (.work (.number e)))
    | .ok lines =>
      ⟨.ok { exit := 1, stdout := Console.plainLines lines },
        [Source.commandLine.event .info "quest_invalid"
          [("quest_id", .text id), ("issues", .int issues.length)]]⟩

/-- What comes of `validate` once the catalog is there. -/
def validateFile (t : FileTree) (settings : Settings) (catalog : Catalog) (file : Path) :
    Logged CommandOutcome :=
  match t.loadQuest file with
  | .error (.breakdown b) => .quiet (.error (.work b))
  | .error (.broken e) => .quiet
    (.ok { exit := 1, stdout := Console.plainLine (BrokenFile.line ⟨file, e.reason⟩) })
  | .ok q => (q.check (settings.ruleContext catalog)).andThen fun
    | .error e => .quiet (.error (.work (.number e)))
    | .ok issues => issuesOutcome q.id issues

/-- Runs `validate`. -/
def runValidate (t : FileTree) (env : Environment) (file : Path) (data asked : Option Path) :
    Logged CommandOutcome :=
  match t.loadSettings asked (.ofPlace t.here) env with
  | .error e => .quiet (settingsFailure e)
  | .ok settings =>
    let settings := settings.withOverrides { dataDir := data }
    match t.find? file with
    | .error fault => .quiet (.error (.work (.path file fault)))
    | .ok none | .ok (some .directory) =>
      .quiet (.ok (failure ("Quest file not found: " ++ file.text)))
    | .ok (some (.file _)) => (t.loadCatalog settings.dataDir).andThen fun
      | .error e => .quiet (workFailure e)
      | .ok catalog => validateFile t settings catalog file

/-- Runs a command. -/
def run (t : FileTree) (env : Environment) : Command → Logged CommandOutcome
  | .check a => runCheck t env a
  | .validate file data settings => runValidate t env file data settings
  | .version => .quiet (.ok { exit := 0, stdout := Console.plainLine versionLine })

end Command
end QuestFlow

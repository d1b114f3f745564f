import QuestFlow.Files.Tree
import QuestFlow.Settings

/-!
# The settings file

Settings are read from the file that is asked for, or else from `questlint.yaml` in the directory
that is searched.  Only a file that is asked for has to exist.  Relative directories in the file
are taken from the directory that holds it, and the environment comes on top.
-/

namespace QuestFlow

/-- Why a settings file cannot be used. -/
inductive SettingsCause where
  | fileMissing
  | notMapping
  | unreadable (fault : ReadFault)
  /-- it cannot even be found out whether there is a file -/
  | unsearchable (fault : PathFault)
  | locales (fault : Unlistable)
  deriving DecidableEq, Repr

/-- A settings file that cannot be used. -/
structure SettingsError where
  path : Path
  cause : SettingsCause
  deriving DecidableEq, Repr

namespace SettingsError

/-- The reason in the message. -/
def reason (e : SettingsError) : String :=
  match e.cause with
  | .fileMissing => "File not found"
  | .notMapping => "expected a mapping"
  | .unreadable fault => fault.message e.path
  | .unsearchable fault => fault.message e.path
  | .locales fault => fault.message

/-- Whether the search itself broke down.  Nobody answers for that: the work just ends. -/
def isBreakdown (e : SettingsError) : Bool :=
  match e.cause with
  | .unsearchable _ => true
  | _ => false

/-- The message. -/
def message (e : SettingsError) : String :=
  if e.isBreakdown then e.reason
  else "Failed to load config at " ++ e.path.text ++ ": " ++ e.reason

end SettingsError

/-- The name of the settings file that is searched for. -/
def settingsFileName : String := "questlint.yaml"

namespace FileTree

/-- The settings in a file that exists, below those of the environment. -/
def readSettings (t : FileTree) (p : Path) (env : Environment) : Except SettingsError Settings :=
  let use (entries : Entries) : Except SettingsError Settings :=
    match Settings.ofEntries entries (some p.parent) with
    | .ok s => .ok (s.withEnvironment env)
    | .error fault => .error ⟨p, .locales fault⟩
  match t.read p with
  | .error fault => .error ⟨p, .unreadable fault⟩
  | .ok .null => use []
  | .ok (.mapping entries) => use entries
  | .ok _ => .error ⟨p, .notMapping⟩

/-- The settings for a run.  `asked` is the file that is asked for, and `dir` the directory that is
searched if none is. -/
def loadSettings (t : FileTree) (asked : Option Path) (dir : Path) (env : Environment) :
    Except SettingsError Settings :=
  let p := asked.getD (dir.child settingsFileName)
  match t.find? p with
  | .error fault => .error ⟨p, .unsearchable fault⟩
  | .ok (some _) => t.readSettings p env
  | .ok none =>
    if asked.isSome then .error ⟨p, .fileMissing⟩
    else .ok (({} : Settings).withEnvironment env)

end FileTree
end QuestFlow

import QuestFlow.Document.Spelling
import QuestFlow.Document.Field
import QuestFlow.Path
import QuestFlow.Quest.Localized
import QuestFlow.Rule.Validation
import QuestFlow.Text.Blank

/-!
# Settings

Settings come in three layers over the built-in defaults: a settings file, the environment, and
what the command line gives.  A later layer wins where it gives something.  What counts as given
differs: a directory in the file or the environment has to be filled, an override just has to be
there, and the switch for the journal rules is read from any value that is not null, the empty
text included.
-/

namespace QuestFlow

/-- The settings of a run. -/
structure Settings where
  questsDir : Path := ⟨.here, ["quests"]⟩
  dataDir : Path := ⟨.here, ["data"]⟩
  journalChecks : Bool := true
  player : String := defaultPlayer
  locales : List String := supportedLocales
  deriving DecidableEq, Repr

/-- The variables of the environment that settings look at; none if a variable is not set. -/
structure Environment where
  questsDir : Option String := none
  dataDir : Option String := none
  journalChecks : Option String := none
  deriving DecidableEq, Repr

/-- What the command line gives. -/
structure Overrides where
  questsDir : Option Path := none
  dataDir : Option Path := none
  journalChecks : Option Bool := none
  deriving DecidableEq, Repr

/-- A value where a list of locales should be, and which cannot be gone through; `sort` names what
it is. -/
structure Unlistable where
  sort : String
  deriving DecidableEq, Repr

/-- The message about it. -/
def Unlistable.message (e : Unlistable) : String := "'" ++ e.sort ++ "' object is not iterable"

namespace Settings

/-- The texts that turn a switch off. -/
def offWords : List String := ["0", "false", "no", "off"]

/-- Whether a text turns a switch on: any text but the words for off, whatever blanks are around
them and whichever of their letters are capital. -/
def isOn (s : String) : Bool :=
  let word := (Text.trimBoth Text.isBlank s.toList).map Char.toLower
  !(offWords.map String.toList).contains word

/-- A switch: null leaves it as it is, a truth value sets it, and any other value is spelled and
read as a text. -/
def switch (current : Bool) : Value → Bool
  | .null => current
  | .bool b => b
  | v => isOn v.spelling

/-- A directory of the settings file, taken from the directory of that file if one is known. -/
def directory (base : Option Path) (fallback : Path) (v : Value) : Path :=
  if v.isGiven then
    let p := Path.ofText v.spelling
    match base with
    | some base => base.join p
    | none => p
  else fallback

/-- The text of a key that is listed by itself. -/
def keyText : Key → String
  | .text s => s
  | k => k.spelling

/-- A list of locales: the members of a list, the keys of a mapping, the characters of a text. -/
def localesOf (v : Value) : Except Unlistable (List String) :=
  if v.isGiven then
    match v with
    | .list items => .ok (items.map Value.spelling)
    | .mapping entries => .ok (entries.map fun (k, _) => keyText k)
    | .text s => .ok (s.toList.map fun c => String.ofList [c])
    | .int _ => .error ⟨"int"⟩
    | .float _ => .error ⟨"float"⟩
    | .bool _ => .error ⟨"bool"⟩
    | .null => .ok supportedLocales
  else .ok supportedLocales

/-- The settings that a settings file gives; `base` is the directory of the file. -/
def ofEntries (entries : Entries) (base : Option Path) : Except Unlistable Settings :=
  let get (name : String) : Value := (Value.lookup name entries).getD .null
  (localesOf (get "locales")).map fun locales =>
    { questsDir := directory base ({} : Settings).questsDir (get "quests_dir")
      dataDir := directory base ({} : Settings).dataDir (get "data_dir")
      journalChecks := switch true (get "journal_checks")
      player := if (get "player_speaker").isGiven then (get "player_speaker").spelling
        else defaultPlayer
      locales }

/-- The settings with what the environment gives.  A directory has to be filled; the switch takes
any text. -/
def withEnvironment (s : Settings) (e : Environment) : Settings :=
  let filled (text : Option String) (current : Path) : Path :=
    match text with
    | some t => if t.isEmpty then current else Path.ofText t
    | none => current
  { s with
    questsDir := filled e.questsDir s.questsDir
    dataDir := filled e.dataDir s.dataDir
    journalChecks := match e.journalChecks with
      | some t => isOn t
      | none => s.journalChecks }

/-- The settings with what the command line gives. -/
def withOverrides (s : Settings) (o : Overrides) : Settings :=
  { s with
    questsDir := o.questsDir.getD s.questsDir
    dataDir := o.dataDir.getD s.dataDir
    journalChecks := o.journalChecks.getD s.journalChecks }

/-- What the rules need to know. -/
def ruleContext (s : Settings) (catalog : Catalog) : RuleContext :=
  { catalog, player := s.player, journal := s.journalChecks }

example : isOn "" = true ∧ isOn " Off\n" = false ∧ isOn "00" = true := by decide +kernel

end Settings
end QuestFlow

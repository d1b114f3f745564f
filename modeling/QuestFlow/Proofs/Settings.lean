import QuestFlow.Proofs.Command.FrontEnds

/-!
# Settings in layers

Three settings are decided by layers: what the command line gives, else what a variable of the
environment gives, else what the settings file or the built-in defaults gave.  The two others come
from below, whatever the layers above say.  An empty variable should give nothing.

1. **One setting** is decided by an override, or else by a text that is not empty, or else from
   below (`layered`).
2. **Settings in layers** are `Settings.Layered`.  The directories follow it always.  The switch for
   the journal rules does so but in one corner: an empty text is not among the words for off, so it
   turns on what is off below (`Settings.resolved`, `Settings.empty_switches_on`).
3. **The settings of a command** are made in these layers from what the settings file gives where
   no variable is set (`CheckArguments.settled_eq_ok_iff`).
-/

namespace QuestFlow

/-! ## One setting -/

/-- A setting that an override decides if there is one, or else a text that is not empty, or else
what is below. -/
def layered {α : Type} (override : Option α) (text : Option String) (parse : String → α)
    (below : α) : α :=
  match override with
  | some a => a
  | none => match text with
    | some t => if t = "" then below else parse t
    | none => below

namespace Settings

variable {c s : Settings} {env : Environment} {o : Overrides}

/-! ## All settings -/

/-- Settings that are made in layers from those below. -/
structure Layered (c : Settings) (env : Environment) (o : Overrides) (s : Settings) : Prop where
  questsDir : s.questsDir = layered o.questsDir env.questsDir Path.ofText c.questsDir
  dataDir : s.dataDir = layered o.dataDir env.dataDir Path.ofText c.dataDir
  /-- a text is read as the settings file reads it -/
  journalChecks : s.journalChecks = layered o.journalChecks env.journalChecks
    (fun t => switch c.journalChecks (.text t)) c.journalChecks
  player : s.player = c.player
  locales : s.locales = c.locales

/-- The settings with what the environment gives, and then with what the command line gives. -/
def withLayers (c : Settings) (env : Environment) (o : Overrides) : Settings :=
  (c.withEnvironment env).withOverrides o

/-- An empty text decides the switch for the journal rules, which is off below. -/
structure EmptySwitch (c : Settings) (env : Environment) (o : Overrides) : Prop where
  noOverride : o.journalChecks = none
  empty : env.journalChecks = some ""
  off : c.journalChecks = false

/-- A directory of the environment has to be filled. -/
theorem getD_filled_eq_layered (override : Option Path) (text : Option String) (below : Path) :
    override.getD (match text with
      | some t => if t.isEmpty then below else Path.ofText t
      | none => below) = layered override text Path.ofText below := by
  cases override with
  | some p => rfl
  | none =>
    cases text with
    | none => rfl
    | some t => simp [layered, String.isEmpty_iff]

/-- The directories are decided in layers. -/
theorem questsDir_withLayers (c : Settings) (env : Environment) (o : Overrides) :
    (c.withLayers env o).questsDir =
      layered o.questsDir env.questsDir Path.ofText c.questsDir :=
  getD_filled_eq_layered o.questsDir env.questsDir c.questsDir

theorem dataDir_withLayers (c : Settings) (env : Environment) (o : Overrides) :
    (c.withLayers env o).dataDir = layered o.dataDir env.dataDir Path.ofText c.dataDir :=
  getD_filled_eq_layered o.dataDir env.dataDir c.dataDir

/-- An empty text in the environment turns the switch on, unless there is an override. -/
theorem journalChecks_of_empty (hover : o.journalChecks = none)
    (hempty : env.journalChecks = some "") : (c.withLayers env o).journalChecks = true := by
  have hon : isOn "" = true := by decide +kernel
  rw [withLayers, withOverrides, withEnvironment]
  simp only [hover, hempty, hon, Option.getD_none]

/-- Otherwise it is decided in layers. -/
theorem journalChecks_of_not_empty (h : ¬ (o.journalChecks = none ∧ env.journalChecks = some "")) :
    (c.withLayers env o).journalChecks = layered o.journalChecks env.journalChecks
      (fun t => switch c.journalChecks (.text t)) c.journalChecks := by
  rw [withLayers, withOverrides, withEnvironment]
  dsimp only
  cases hover : o.journalChecks with
  | some b => rfl
  | none =>
    cases htext : env.journalChecks with
    | none => rfl
    | some t =>
      have hfilled : t ≠ "" := by
        rintro rfl
        exact h ⟨hover, htext⟩
      simp only [layered, if_neg hfilled]
      rfl

/-- So the switch is decided in layers unless an empty text turns on what is off below. -/
theorem journalChecks_layered_iff : (c.withLayers env o).journalChecks =
      layered o.journalChecks env.journalChecks (fun t => switch c.journalChecks (.text t))
        c.journalChecks ↔ ¬ EmptySwitch c env o := by
  by_cases hgiven : o.journalChecks = none ∧ env.journalChecks = some ""
  · obtain ⟨hover, hempty⟩ := hgiven
    rw [journalChecks_of_empty hover hempty, hover, hempty]
    change true = c.journalChecks ↔ _
    constructor
    · intro hon hswitch
      rw [hswitch.off] at hon
      cases hon
    · intro hfree
      by_contra hoff
      exact hfree ⟨hover, hempty, Bool.eq_false_iff.2 fun hon => hoff hon.symm⟩
  · have hfree : ¬ EmptySwitch c env o := fun hswitch =>
      hgiven ⟨hswitch.noOverride, hswitch.empty⟩
    exact iff_of_true (journalChecks_of_not_empty hgiven) hfree

/-- What the layers come to. -/
structure Resolved (c : Settings) (env : Environment) (o : Overrides) (s : Settings) : Prop where
  /-- the settings are made in layers just when no empty text decides the switch -/
  layered_iff : Layered c env o s ↔ ¬ EmptySwitch c env o
  /-- and where one does, the switch is on, and nothing else is amiss -/
  otherwise : EmptySwitch c env o →
    s.journalChecks = true ∧ Layered c env o { s with journalChecks := false }

/-- **Settings are made in layers**, but for a switch that an empty text turns on. -/
theorem resolved (c : Settings) (env : Environment) (o : Overrides) :
    Resolved c env o (c.withLayers env o) where
  layered_iff := by
    constructor
    · exact fun h => journalChecks_layered_iff.1 h.journalChecks
    · exact fun hfree => ⟨questsDir_withLayers c env o, dataDir_withLayers c env o,
        journalChecks_layered_iff.2 hfree, rfl, rfl⟩
  otherwise := by
    intro hswitch
    refine ⟨journalChecks_of_empty hswitch.noOverride hswitch.empty,
      questsDir_withLayers c env o, dataDir_withLayers c env o, ?_, rfl, rfl⟩
    rw [hswitch.noOverride, hswitch.empty, layered, hswitch.off]
    rfl

/-- An empty variable turns the journal rules on that the settings below have turned off. -/
theorem empty_switches_on :
    (({ journalChecks := false } : Settings).withLayers { journalChecks := some "" } {}
      ).journalChecks = true ∧
    ¬ Layered { journalChecks := false } { journalChecks := some "" } {}
      (({ journalChecks := false } : Settings).withLayers { journalChecks := some "" } {}) := by
  have hon : (({ journalChecks := false } : Settings).withLayers { journalChecks := some "" } {}
      ).journalChecks = true := journalChecks_of_empty rfl rfl
  refine ⟨hon, fun h => ?_⟩
  have hoff := hon.symm.trans h.journalChecks
  cases hoff

/-- Where no variable is set, the environment gives nothing. -/
@[simp] theorem withEnvironment_nothing (s : Settings) : s.withEnvironment {} = s := rfl

end Settings

/-! ## The settings of a command -/

namespace FileTree

/-- The environment is a layer above what is loaded without it. -/
theorem loadSettings_eq (t : FileTree) (asked : Option Path) (dir : Path) (env : Environment) :
    t.loadSettings asked dir env =
      (t.loadSettings asked dir {}).map (·.withEnvironment env) := by
  have hread : ∀ p, t.readSettings p env =
      (t.readSettings p {}).map (·.withEnvironment env) := by
    intro p
    simp only [readSettings, Settings.withEnvironment_nothing]
    cases t.read p with
    | error fault => rfl
    | ok document =>
      cases document with
      | null => cases Settings.ofEntries [] (some p.parent) <;> rfl
      | mapping es =>
        dsimp only
        cases Settings.ofEntries es (some p.parent) <;> rfl
      | _ => rfl
  simp only [loadSettings]
  cases t.find? (asked.getD (dir.child settingsFileName)) with
  | error fault => rfl
  | ok found =>
    cases found with
    | some e => exact hread _
    | none =>
      dsimp only
      split <;> rfl

end FileTree

/-- What the arguments of `check` give. -/
def CheckArguments.overrides (a : CheckArguments) : Overrides :=
  { questsDir := a.quests, dataDir := a.data
    journalChecks := if a.noJournal then some false else none }

/-- **The settings of `check`** are those of the settings file, or the built-in ones, with the
layers of the environment and of the command line above them. -/
theorem CheckArguments.settled_eq_ok_iff {t : FileTree} {env : Environment} {a : CheckArguments}
    {s : Settings} : a.settled t env = .ok s ↔
      ∃ c, t.loadSettings a.settings (.ofPlace t.here) {} = .ok c ∧
        s = c.withLayers env a.overrides := by
  rw [CheckArguments.settled, FileTree.loadSettings_eq]
  cases t.loadSettings a.settings (.ofPlace t.here) {} with
  | error e => simp [Except.map]
  | ok c =>
    constructor
    · exact fun h => ⟨c, rfl, (Except.ok.inj h).symm⟩
    · rintro ⟨_, ⟨rfl⟩, rfl⟩
      rfl

end QuestFlow

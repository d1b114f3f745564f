import QuestFlow.Proofs.Log.Session

/-!
# The lines of a log file

Every event that is logged while a log file is open should become one line of this file, and of no
other; and the lines that are there should stay.

1. **The level of a logger** is the threshold that was in force when it logged first, and it stays
   (`lookup_fixed_run`, by induction on the steps).  An event below it is held back.
2. **An event** is lost if it is held back, or if it cannot be written (`files_of_lost`).  Any other
   becomes one line of the open log file (`recorded_of_said`).
3. **Lines stay**: a run loses nothing (`extends_run`).
4. **The promise** is kept by a run just when no event is lost in it while a log file is open
   (`linesKept_run`).  A logger that logged before the log file was asked for holds back what the
   log file should have got (`asked_later_not_promised`), and an event about a node whose ID has too
   many digits leaves no line (`unwritable_not_promised`).
-/

namespace QuestFlow

/-! ## Levels -/

/-- No part of this program is held at warnings. -/
theorem Recorder.thresholdOf_source (r : Recorder) (source : Source) :
    r.thresholdOf source.name = r.threshold := by
  have hquiet : (Recorder.ancestors source.name).any noisyLoggers.contains = false := by
    cases source <;> decide +kernel
  rw [Recorder.thresholdOf, hquiet]
  rfl

/-- The threshold is fixed for a logger that has fixed none. -/
theorem Recorder.lookup_fix (r : Recorder) (logger other : String) :
    (r.fix logger).fixed.lookup other =
      (r.fixed.lookup other).or (if logger = other then some r.threshold else none) := by
  by_cases heq : logger = other
  · subst heq
    cases hfixed : r.fixed.lookup logger with
    | some level =>
      rw [Recorder.fix, hfixed]
      exact hfixed
    | none =>
      rw [Recorder.fix, hfixed]
      simp [List.lookup_append, hfixed]
  · have hother : (other == logger) = false := by simpa using fun h : other = logger => heq h.symm
    rw [Recorder.fix, if_neg heq, Option.or_none]
    split
    · rfl
    · simp [List.lookup_append, List.lookup_cons, hother]

/-- The logger that a step logs by, if it logs. -/
def LogStep.logger? (x : LogStep) : Option String := x.said?.map (·.logger)

namespace LogSession

variable {s : LogSession} {x : LogStep} {e : Event} {asked : Option Path} {log : OpenLog}
  {t : FileTree} {steps before after : List LogStep}

/-- The threshold in force when a logger logs first, if it does. -/
def firstLevel (logger : String) : LogSession → List LogStep → Option Level
  | _, [] => none
  | s, x :: steps =>
    (if x.logger? = some logger then some s.log.threshold else none).or
      (firstLevel logger (s.step x) steps)

/-- **One step** fixes the level of the logger that it logs by, if this has fixed none. -/
theorem lookup_fixed_step (h : s.workspace.Sound) (x : LogStep) (logger : String) :
    (s.step x).log.fixed.lookup logger = (s.log.fixed.lookup logger).or
      (if x.logger? = some logger then some s.log.threshold else none) := by
  cases hsaid : x.said? with
  | none =>
    have hnone : x.logger? = none := by rw [LogStep.logger?, hsaid, Option.map_none]
    rw [(quietStep_of_quiet h hsaid).fixed, hnone]
    exact (Option.or_none).symm
  | some e =>
    have hlogger : x.logger? = some e.logger := by rw [LogStep.logger?, hsaid, Option.map_some]
    rw [step_of_said hsaid, hlogger]
    change (s.log.fix e.logger).fixed.lookup logger = _
    simp only [Recorder.lookup_fix, Option.some.injEq]

/-- **A run** leaves each logger the level that it has, or else the one in force when it logs
first. -/
theorem lookup_fixed_run (h : Consistent s asked) (steps : List LogStep) (logger : String) :
    (s.run steps).log.fixed.lookup logger =
      (s.log.fixed.lookup logger).or (firstLevel logger s steps) := by
  induction steps generalizing s asked with
  | nil => exact (Option.or_none).symm
  | cons x steps ih =>
    have hrest := ih (h.step x)
    rw [lookup_fixed_step h.sound, Option.or_assoc] at hrest
    exact hrest

theorem lookup_fixed_start (h : t.WellFormed) (steps : List LogStep) (logger : String) :
    ((start t).run steps).log.fixed.lookup logger = firstLevel logger (start t) steps :=
  lookup_fixed_run (consistent_start h) steps logger

/-- An event after some steps is below the level that its logger has fixed in them. -/
def HeldBack (t : FileTree) (before : List LogStep) (e : Event) : Prop :=
  ∃ level, firstLevel e.logger (start t) before = some level ∧ e.level.number < level.number

/-- An event that leaves no line, although a log file may be open: it is held back, or it cannot be
written. -/
def Lost (t : FileTree) (before : List LogStep) (e : Event) : Prop :=
  HeldBack t before e ∨ Recorder.isWritable e = false

/-- What is held back does not pass. -/
theorem not_passes_of_heldBack (h : t.WellFormed) (hheld : HeldBack t before e) :
    ((start t).run before).log.passes e = false := by
  obtain ⟨level, hfirst, hbelow⟩ := hheld
  have hlevel : ((start t).run before).log.fixedLevel e.logger = level := by
    rw [Recorder.fixedLevel, lookup_fixed_start h, hfirst]
    rfl
  rw [Recorder.passes, hlevel, decide_eq_false (Nat.not_le.2 hbelow), Bool.false_and]

/-- While a log file is open, everything else passes. -/
theorem passes_of_not_heldBack (h : t.WellFormed) (hsaid : x.said? = some e)
    (hopen : ((start t).run before).log.openLog = some log) (hfree : ¬ HeldBack t before e) :
    ((start t).run before).log.passes e = true := by
  obtain ⟨dir, -, hholds⟩ := (consistent_run h before).log log hopen
  have hlowest : Level.debug.number ≤ e.level.number := by cases e.level <;> decide
  have hthreshold : ((start t).run before).log.thresholdOf e.logger = .debug := by
    obtain ⟨source, level, name, context, -, rfl⟩ := LogStep.exists_event_of_said hsaid
    exact (Recorder.thresholdOf_source _ source).trans hholds.threshold
  have hlevel : (((start t).run before).log.fixedLevel e.logger).number ≤ e.level.number := by
    rw [Recorder.fixedLevel, lookup_fixed_start h]
    cases hfirst : firstLevel e.logger (start t) before with
    | none => exact hholds.threshold ▸ hlowest
    | some level => exact Nat.not_lt.1 fun hbelow => hfree ⟨level, hfirst, hbelow⟩
  rw [Recorder.passes, hthreshold, decide_eq_true hlevel, decide_eq_true hlowest, Bool.and_self]

/-! ## What becomes of an event -/

/-- The promise of a log file, for an event after some steps. -/
structure Recorded (t : FileTree) (before : List LogStep) (x : LogStep) (e : Event) : Prop where
  /-- the log file of the most recent configuration, if it is open, has one line more, and that is
  all -/
  line : ∀ log, ((start t).run before).log.openLog = some log →
    ∃ dir place, lastAsked before = some dir ∧
      ((start t).run before).files.resolve dir = .ok place ∧
      FileTree.AddsLine ((start t).run before).files ((start t).run (before ++ [x])).files
        (place ++ [logFileName]) (Recorder.entry e)
  /-- otherwise no file changes -/
  lost : ((start t).run before).log.openLog = none →
    ((start t).run (before ++ [x])).files = ((start t).run before).files

/-- What an event leaves of the files. -/
theorem files_of_said (hsaid : x.said? = some e) :
    ((start t).run (before ++ [x])).files =
      if ((start t).run before).log.passes e then
        ((start t).run before).log.append ((start t).run before).files e
      else ((start t).run before).files := by
  rw [run_append]
  change (((start t).run before).step x).files = _
  rw [step_of_said hsaid]
  rfl

/-- **What is lost** changes no file. -/
theorem files_of_lost (h : t.WellFormed) (hsaid : x.said? = some e) (hlost : Lost t before e) :
    ((start t).run (before ++ [x])).files = ((start t).run before).files := by
  rw [files_of_said hsaid]
  rcases hlost with hheld | hunwritable
  · rw [not_passes_of_heldBack h hheld]
    rfl
  · simp only [Recorder.append, hunwritable, Bool.and_false, Bool.false_eq_true, if_false]
    split
    · split <;> rfl
    · rfl

/-- Where no log file is open, everything is lost. -/
theorem files_of_closed (hsaid : x.said? = some e)
    (hclosed : ((start t).run before).log.openLog = none) :
    ((start t).run (before ++ [x])).files = ((start t).run before).files := by
  rw [files_of_said hsaid]
  split
  · rw [Recorder.append, hclosed]
  · rfl

/-- **Everything else** becomes a line of the open log file. -/
theorem recorded_of_said (h : t.WellFormed) (hsaid : x.said? = some e)
    (hkept : ((start t).run before).log.openLog ≠ none → ¬ Lost t before e) :
    Recorded t before x e where
  line := by
    intro log hopen
    have hconsistent := consistent_run h before
    obtain ⟨dir, hasked, hholds⟩ := hconsistent.log log hopen
    obtain ⟨place, hresolve, hplace⟩ := hholds.place
    have hopened : ((start t).run before).log.openLog ≠ none := by simp [hopen]
    have hfile : ((start t).run before).files.IsFile (place ++ [logFileName]) :=
      hplace ▸ hconsistent.sound.log log hopen hholds.linked
    have hfree : ¬ HeldBack t before e := fun hheld => hkept hopened (.inl hheld)
    have hwritable : Recorder.isWritable e = true := by
      rw [← Bool.not_eq_false]
      exact fun hunwritable => hkept hopened (.inr hunwritable)
    have happend : ((start t).run (before ++ [x])).files =
        ((start t).run before).files.appendLog (place ++ [logFileName]) (Recorder.entry e) := by
      rw [files_of_said hsaid, passes_of_not_heldBack h hsaid hopen hfree,
        Recorder.append_of_open hopen hholds.linked, hwritable, hplace]
      rfl
    refine ⟨dir, place, hasked, hresolve, ?_⟩
    rw [happend]
    exact FileTree.addsLine_appendLog hfile _
  lost := files_of_closed hsaid

/-! ## Lines stay -/

/-- **One step** loses nothing. -/
theorem extends_step (h : s.workspace.Sound) (x : LogStep) :
    FileTree.Extends s.files (s.step x).files := by
  cases hsaid : x.said? with
  | some e => exact extends_step_of_said hsaid
  | none =>
    have hstep := quietStep_of_quiet h hsaid
    exact FileTree.extends_of_keeps hstep.standpoint hstep.keeps

/-- **A run** loses nothing. -/
theorem extends_run (h : Consistent s asked) (steps : List LogStep) :
    FileTree.Extends s.files (s.run steps).files := by
  induction steps generalizing s asked with
  | nil => exact .refl s.files
  | cons x steps ih => exact (extends_step h.sound x).trans (ih (h.step x))

/-! ## The promise -/

/-- What log files promise for a run. -/
structure Promised (t : FileTree) (steps : List LogStep) : Prop where
  recorded : ∀ before x after e, steps = before ++ x :: after → x.said? = some e →
    Recorded t before x e
  lasting : ∀ before after, steps = before ++ after →
    FileTree.Extends ((start t).run before).files ((start t).run steps).files

/-- What log files keep of it. -/
structure LinesKept (t : FileTree) (steps : List LogStep) : Prop where
  /-- a log file that is asked for is open, unless configuring fails -/
  opened : ∀ before verbosity dir after,
    steps = before ++ .configure verbosity true (some dir) :: after →
    (((start t).run before).workspace.configureLog verbosity true (some dir)).1 = .ok () →
    ((start t).run (before ++ [.configure verbosity true (some dir)])).log.openLog ≠ none
  /-- the promise is kept just when nothing is lost while a log file is open -/
  kept_iff : Promised t steps ↔ ∀ before x after e, steps = before ++ x :: after →
    x.said? = some e → ((start t).run before).log.openLog ≠ none → ¬ Lost t before e
  /-- it is kept of each event that is not lost then -/
  recorded : ∀ before x after e, steps = before ++ x :: after → x.said? = some e →
    (((start t).run before).log.openLog ≠ none → ¬ Lost t before e) → Recorded t before x e
  /-- what is lost changes no file -/
  lost : ∀ before x after e, steps = before ++ x :: after → x.said? = some e → Lost t before e →
    ((start t).run (before ++ [x])).files = ((start t).run before).files
  /-- the other steps add nothing to what is there -/
  quiet : ∀ before x after, steps = before ++ x :: after → x.said? = none →
    ∀ place e, ((start t).run before).files.entry? place = some e →
      ((start t).run (before ++ [x])).files.entry? place = some e
  /-- and what is there stays -/
  lasting : ∀ before after, steps = before ++ after →
    FileTree.Extends ((start t).run before).files ((start t).run steps).files

/-- **Every event becomes a line** of the open log file, but for those that are held back or cannot
be written. -/
theorem linesKept_run (h : t.WellFormed) (steps : List LogStep) : LinesKept t steps := by
  have hlasting : ∀ before after, steps = before ++ after →
      FileTree.Extends ((start t).run before).files ((start t).run steps).files := by
    rintro before after rfl
    rw [run_append]
    exact extends_run (consistent_run h before) after
  refine ⟨?_, ⟨?_, ?_⟩, ?_, ?_, ?_, hlasting⟩
  · intro before verbosity dir after _ hdone
    rw [run_append]
    exact openLog_of_configureLog hdone
  · intro hpromised before x after e hsteps hsaid hopened hlost
    obtain ⟨log, hopen⟩ := Option.ne_none_iff_exists'.1 hopened
    obtain ⟨dir, place, -, -, hadds⟩ :=
      (hpromised.recorded before x after e hsteps hsaid).line log hopen
    rw [files_of_lost h hsaid hlost] at hadds
    exact hadds.ne rfl
  · exact fun hkept => ⟨fun before x after e hsteps hsaid =>
      recorded_of_said h hsaid (hkept before x after e hsteps hsaid), hlasting⟩
  · exact fun before x after e _ hsaid hkept => recorded_of_said h hsaid hkept
  · exact fun before x after e _ hsaid hlost => files_of_lost h hsaid hlost
  · intro before x after _ hquiet
    rw [run_append]
    exact (quietStep_of_quiet (consistent_run h before).sound hquiet).keeps

/-- Asking for a log file. -/
def askStep : LogStep := .configure 0 true (some ⟨.here, ["logs"]⟩)

/-- Logging that quests were loaded. -/
def loadStep : LogStep := .event .questFiles .debug "quests_loaded" [("loaded", .int 0)]

/-- A log file that is asked for first gets what is logged. -/
theorem linesKept_asked_first : bareTree.WellFormed ∧ LinesKept bareTree [askStep, loadStep] ∧
    (((start bareTree).run [askStep, loadStep]).files.readLog
        ⟨.here, ["logs", logFileName]⟩).toOption.join.map (·.length) = some 1 :=
  ⟨wellFormed_bareTree, linesKept_run wellFormed_bareTree [askStep, loadStep], by decide +kernel⟩

/-- One that is asked for later does not: the logger has fixed its level by then. -/
theorem asked_later_not_promised : ¬ Promised bareTree [loadStep, askStep, loadStep] := by
  intro hpromised
  have hopen : ((start bareTree).run [loadStep, askStep]).log.openLog =
      some { place := ["logs", logFileName] } := by decide +kernel
  have hsame : ((start bareTree).run [loadStep, askStep, loadStep]).files =
      ((start bareTree).run [loadStep, askStep]).files := by decide +kernel
  obtain ⟨dir, place, -, -, hadds⟩ :=
    (hpromised.recorded [loadStep, askStep] loadStep [] _ rfl rfl).line _ hopen
  exact hadds.ne hsame

/-- Logging a cycle whose last edge leads back from a node with a huge ID. -/
def hugeCycleStep : LogStep := .event .cycleSearch .debug "cycle_detected"
  [("source", .int IntegerText.leastUnwritable), ("target", .int 1)]

/-- And an event that cannot be written leaves no line even then. -/
theorem unwritable_not_promised : ¬ Promised bareTree [askStep, hugeCycleStep] := by
  intro hpromised
  have hopen : ((start bareTree).run [askStep]).log.openLog =
      some { place := ["logs", logFileName] } := by decide +kernel
  have hlost : Lost bareTree [askStep] (Source.cycleSearch.event .debug "cycle_detected"
      [("source", .int IntegerText.leastUnwritable), ("target", .int 1)]) := by
    right
    rw [Recorder.isWritable_eq (by decide +kernel)]
    simp [Source.event, Json.isWritable, IntegerText.isWritable_leastUnwritable]
  obtain ⟨dir, place, -, -, hadds⟩ :=
    (hpromised.recorded [askStep] hugeCycleStep [] _ rfl rfl).line _ hopen
  exact hadds.ne (files_of_lost wellFormed_bareTree rfl hlost)

end LogSession
end QuestFlow

import QuestFlow.Log.Source
import QuestFlow.Proofs.Workspace

/-!
# Sessions of logging

In a session, logging is configured again and again, the log file is closed, loggers are asked for
and events are logged, in any order.

1. **One step** logs an event, and then it is told by what the recorder does (`step_of_said`); or
   it logs nothing, and then all that is used of it is said once (`quietStep_of_quiet`), in however
   many ways configuring may end.
2. **The open log file** is that of the most recent configuration (`Consistent`).  One step keeps
   this (`Consistent.step`), and so does a run (`Consistent.run`, by induction on the steps).
3. **The known directory** is the last one that was made ready for a log file (`directory_run`).
   That is right while the file is open.  But nothing forgets the directory when the file is closed,
   so what is known tells the open file only while there is one, or where there never was one
   (`directoryKept_run`).
-/

namespace QuestFlow

/-! ## Steps -/

/-- What can be done about logging. -/
inductive LogStep where
  | configure (verbosity : Int) (toFile : Bool) (dir : Option Path)
  | close
  /-- asking for a logger, which configures logging where nothing has done so before -/
  | logger
  | event (source : Source) (level : Level) (name : String) (context : Fields)
  deriving DecidableEq, Repr

namespace LogStep

/-- The event that a step logs, if it is one. -/
def said? : LogStep → Option Event
  | .event source level name context => some (source.event level name context)
  | .configure .. | .close | .logger => none

/-- Events are logged by parts of this program. -/
theorem exists_event_of_said {x : LogStep} {e : Event} (hsaid : x.said? = some e) :
    ∃ source level name context, x = .event source level name context ∧
      e = source.event level name context := by
  cases x with
  | event source level name context =>
    exact ⟨source, level, name, context, rfl, (Option.some.inj hsaid).symm⟩
  | configure verbosity toFile dir => cases hsaid
  | close => cases hsaid
  | logger => cases hsaid

/-- The directory in which the most recent configuration has its log file, after a step.  Without a
directory, a log file is refused, and all stays as it was. -/
def asks (dir : Option Path) : LogStep → Option Path
  | .configure _ true (some asked) => some asked
  | .configure _ false _ | .close => none
  | .configure _ true none | .logger | .event .. => dir

end LogStep

/-- The directory in which the most recent of all configurations has its log file, unless it has
been closed. -/
def lastAsked (steps : List LogStep) : Option Path := steps.foldl LogStep.asks none

/-- A workspace, and whether logging has been configured in it. -/
structure LogSession where
  workspace : Workspace
  configured : Bool := false
  deriving DecidableEq, Repr

namespace LogSession

/-- A session before its first step.  The levels are those that a configuration without any wishes
would set. -/
def start (t : FileTree) : LogSession := { workspace := { files := t } }

/-- The files. -/
def files (s : LogSession) : FileTree := s.workspace.files

/-- What becomes of events. -/
def log (s : LogSession) : Recorder := s.workspace.log

/-- Configuring, which may fail on the way. -/
def configure (s : LogSession) (verbosity : Int) (toFile : Bool) (dir : Option Path) :
    LogSession :=
  match s.workspace.configureLog verbosity toFile dir with
  | (.ok _, workspace) => { workspace, configured := true }
  | (.error _, workspace) => { s with workspace }

/-- **One step.** -/
def step (s : LogSession) : LogStep → LogSession
  | .configure verbosity toFile dir => s.configure verbosity toFile dir
  | .close => { s with workspace := s.workspace.closeLog }
  | .logger => if s.configured then s else s.configure 0 false none
  | .event source level name context =>
    { s with workspace := (s.workspace.hear (.say (source.event level name context))).2 }

/-- Asking for a logger first configures logging, and leaves the levels as they are. -/
example (t : FileTree) : (start t).step .logger = { start t with configured := true } := rfl

/-- **A run** of steps. -/
def run (s : LogSession) (steps : List LogStep) : LogSession := steps.foldl step s

variable {s s' : LogSession} {x : LogStep} {e : Event} {asked : Option Path} {log : OpenLog}
  {t : FileTree}

theorem run_append (s : LogSession) (before after : List LogStep) :
    s.run (before ++ after) = (s.run before).run after := List.foldl_append ..

/-- An event is recorded, and that is all. -/
theorem step_of_said (hsaid : x.said? = some e) : s.step x =
    { s with workspace :=
      { files := if s.log.passes e then s.log.append s.files e else s.files
        log := s.log.fix e.logger } } := by
  obtain ⟨source, level, name, context, rfl, rfl⟩ := LogStep.exists_event_of_said hsaid
  simp only [step, Workspace.hear, Logged.say, Recorder.recordAll, Recorder.recordOwn_eq]
  rfl

end LogSession

/-! ## Files with more lines -/

namespace FileTree

variable {t t' t'' : FileTree} {place : Place} {line : Value}

/-- Another tree in which files have got more lines at most, and something is new at most where
nothing was. -/
structure Extends (t t' : FileTree) : Prop where
  standpoint : t'.toStandpoint = t.toStandpoint
  directory : ∀ place, t.entry? place = some .directory → t'.entry? place = some .directory
  file : ∀ place content, t.entry? place = some (.file content) →
    ∃ lines, t'.entry? place = some (.file { content with log := content.log ++ lines })

/-- A tree that has all that another one has. -/
theorem extends_of_keeps (hstandpoint : t'.toStandpoint = t.toStandpoint)
    (hkeeps : ∀ place e, t.entry? place = some e → t'.entry? place = some e) : Extends t t' where
  standpoint := hstandpoint
  directory := fun place hentry => hkeeps place _ hentry
  file := fun place content hentry =>
    ⟨[], (hkeeps place _ hentry).trans (by rw [List.append_nil])⟩

theorem Extends.refl (t : FileTree) : Extends t t := extends_of_keeps rfl fun _ _ => id

theorem Extends.trans (h : Extends t t') (h' : Extends t' t'') : Extends t t'' where
  standpoint := h'.standpoint.trans h.standpoint
  directory := fun place hentry => h'.directory place (h.directory place hentry)
  file := by
    intro place content hentry
    obtain ⟨lines, hlines⟩ := h.file place content hentry
    obtain ⟨more, hmore⟩ := h'.file place _ hlines
    exact ⟨lines ++ more, by rw [hmore, List.append_assoc]⟩

/-- Paths lead where they did. -/
theorem Extends.stands (h : Extends t t') : Stands t t' where
  standpoint := h.standpoint
  directory := fun place hdir => beq_iff_eq.2 (h.directory place (beq_iff_eq.1 hdir))
  entry := by
    intro place e hentry
    cases e with
    | directory => exact ⟨_, h.directory place hentry⟩
    | file content =>
      obtain ⟨lines, hlines⟩ := h.file place content hentry
      exact ⟨_, hlines⟩

/-- The file at a place has one line more, and that is all. -/
structure AddsLine (t t' : FileTree) (place : Place) (line : Value) : Prop where
  standpoint : t'.toStandpoint = t.toStandpoint
  line : ∃ content, t.entry? place = some (.file content) ∧
    t'.entry? place = some (.file (content.append line))
  others : ∀ other, other ≠ place → t'.entry? other = t.entry? other

theorem AddsLine.extends (h : AddsLine t t' place line) : Extends t t' := by
  obtain ⟨content, hold, hnew⟩ := h.line
  refine ⟨h.standpoint, fun other hentry => ?_, fun other content' hentry => ?_⟩
  · have hne : other ≠ place := by
      rintro rfl
      rw [hold] at hentry
      cases hentry
    rw [h.others other hne, hentry]
  · by_cases heq : other = place
    · subst heq
      rw [hold] at hentry
      cases hentry
      exact ⟨[line], hnew⟩
    · exact ⟨[], by rw [h.others other heq, hentry, List.append_nil]⟩

/-- A line more is a change. -/
theorem AddsLine.ne (h : AddsLine t t' place line) : t' ≠ t := by
  rintro rfl
  obtain ⟨content, hold, hnew⟩ := h.line
  have hsame := Option.some.inj (hold.symm.trans hnew)
  have hlength := congrArg (·.log.length) (FileEntry.file.inj hsame)
  simp [Content.append] at hlength

theorem addsLine_appendLog (hfile : t.IsFile place) (line : Value) :
    AddsLine t (t.appendLog place line) place line := by
  obtain ⟨content, hcontent⟩ := hfile
  refine ⟨?_, ⟨content, hcontent, entry?_appendLog hcontent line⟩, fun other hne => ?_⟩
  · rw [appendLog, hcontent]
    rfl
  · rw [appendLog, hcontent]
    exact entry?_put_of_ne hne

/-- Whatever is at the place, nothing is lost. -/
theorem extends_appendLog (t : FileTree) (place : Place) (line : Value) :
    Extends t (t.appendLog place line) := by
  by_cases hfile : t.IsFile place
  · exact (addsLine_appendLog hfile line).extends
  · have hsame : t.appendLog place line = t := by
      rw [appendLog]
      split
      · rename_i content hcontent
        exact absurd ⟨content, hcontent⟩ hfile
      · rfl
    rw [hsame]
    exact .refl t

theorem extends_append (r : Recorder) (t : FileTree) (e : Event) :
    Extends t (r.append t e) := by
  rw [Recorder.append]
  split
  · split
    · exact extends_appendLog t _ _
    · exact .refl t
  · exact .refl t

end FileTree

/-! ## Opening a log file -/

namespace Recorder

variable {r : Recorder} {t : FileTree}

/-- What asking for a log file in a directory comes to. -/
inductive OpensIn (r : Recorder) (t : FileTree) (dir : Path) :
    Recorder × FileTree × Option LogError → Prop
  /-- the directory cannot be made -/
  | unmade (fault : WriteFault) (hmade : (t.makeDirectory dir).1 = .error fault) :
    OpensIn r t dir (r, (t.makeDirectory dir).2, some (.unwritable fault))
  /-- the file in it cannot be opened -/
  | unopened (place : Place) (fault : WriteFault) (hmade : (t.makeDirectory dir).1 = .ok place) :
    OpensIn r t dir
      ({ r with directory := some dir }, (t.makeDirectory dir).2, some (.unwritable fault))
  | opened (place : Place) (t' : FileTree) (hmade : (t.makeDirectory dir).1 = .ok place)
    (hstandpoint : t'.toStandpoint = (t.makeDirectory dir).2.toStandpoint)
    (hkeeps : ∀ place e, FileTree.entry? (t.makeDirectory dir).2 place = some e →
      t'.entry? place = some e) :
    OpensIn r t dir
      ({ r with directory := some dir, openLog := some { place := place ++ [logFileName] } }, t',
        none)

/-- Opening the log file in a directory that is there loses nothing, and may fail. -/
theorem openAt_cases (r : Recorder) (t : FileTree) (dir : Place) :
    (∃ fault, r.openAt t dir = (r, t, some (.unwritable fault))) ∨
      ∃ t' : FileTree, r.openAt t dir =
          ({ r with openLog := some { place := dir ++ [logFileName] } }, t', none) ∧
        t'.toStandpoint = t.toStandpoint ∧
        ∀ place e, t.entry? place = some e → t'.entry? place = some e := by
  rw [openAt]
  split
  · exact .inl ⟨_, rfl⟩
  · split
    · exact .inl ⟨_, rfl⟩
    · exact .inr ⟨t, rfl, rfl, fun _ _ => id⟩
    · rename_i habsent
      refine .inr ⟨_, rfl, rfl, fun place e hentry => ?_⟩
      exact (FileTree.entry?_put_iff habsent).2 (.inl hentry)

theorem opensIn_openIn (r : Recorder) (t : FileTree) (dir : Path) :
    OpensIn r t dir (r.openIn t dir) := by
  have hopens : ∀ place, (t.makeDirectory dir).1 = .ok place → OpensIn r t dir
      (openAt { r with directory := some dir } (t.makeDirectory dir).2 place) := by
    intro place hmade
    rcases openAt_cases { r with directory := some dir } (t.makeDirectory dir).2 place with
      ⟨fault, hfault⟩ | ⟨t', hopened, hstandpoint, hkeeps⟩
    · rw [hfault]
      exact .unopened place fault hmade
    · rw [hopened]
      exact .opened place t' hmade hstandpoint hkeeps
  have hfails : ∀ fault, (t.makeDirectory dir).1 = .error fault →
      OpensIn r t dir (r, (t.makeDirectory dir).2, some (.unwritable fault)) := .unmade
  rw [openIn]
  cases hmade : t.makeDirectory dir with
  | mk outcome t' =>
    rw [hmade] at hopens hfails
    cases outcome with
    | error fault => exact hfails fault rfl
    | ok place => exact hopens place rfl

@[simp] theorem directory_fix (r : Recorder) (logger : String) :
    (r.fix logger).directory = r.directory := by
  unfold fix
  split <;> rfl

/-- A configuration with a log file sets the levels once the file is open. -/
theorem configure_file {r' : Recorder} {t' : FileTree} {failed : Option LogError} {dir : Path}
    (verbosity : Int) (hresult : r.close.openIn t dir = (r', t', failed)) :
    r.configure t verbosity true (some dir) =
      (if failed.isNone then { r' with threshold := .debug, console := consoleLevel verbosity }
        else r', t', failed) := by
  rw [configure, hresult]
  cases failed with
  | none => simp only [Bool.or_true, Option.isNone_none, if_true]
  | some fault => rfl

end Recorder

namespace LogSession

variable {s s' : LogSession} {x : LogStep} {e : Event} {asked : Option Path} {log : OpenLog}
  {t : FileTree}

/-! ## Steps that log nothing -/

/-- The open log file is in a directory, which is the known one; and the threshold lets every event
through. -/
structure Holds (s : LogSession) (dir : Path) (log : OpenLog) : Prop where
  place : ∃ place, s.files.resolve dir = .ok place ∧ log.place = place ++ [logFileName]
  linked : log.linked = true
  directory : s.log.directory = some dir
  threshold : s.log.threshold = .debug

/-- The directory that a step makes ready for a log file, if any. -/
def readied? (s : LogSession) : LogStep → Option Path
  | .configure _ true (some dir) =>
    match (s.files.makeDirectory dir).1 with
    | .ok _ => some dir
    | .error _ => none
  | .configure .. | .close | .logger | .event .. => none

/-- What a step comes to that logs nothing. -/
structure QuietStep (s : LogSession) (x : LogStep) (s' : LogSession) : Prop where
  sound : s'.workspace.Sound
  standpoint : s'.files.toStandpoint = s.files.toStandpoint
  /-- nothing is lost or changed -/
  keeps : ∀ place e, s.files.entry? place = some e → s'.files.entry? place = some e
  /-- nor is any level that a logger has fixed -/
  fixed : s'.log.fixed = s.log.fixed
  directory : s'.log.directory = (s.readied? x).or s.log.directory
  /-- a log file that is open is the one that was asked for, unless all is as it was -/
  opened : ∀ log, s'.log.openLog = some log →
    (s' = s ∧ ∀ asked, LogStep.asks asked x = asked) ∨
      ∃ dir, (∀ asked, LogStep.asks asked x = some dir) ∧ s'.Holds dir log

/-- A step may do nothing at all. -/
theorem quietStep_self (h : s.workspace.Sound) (hreadied : s.readied? x = none)
    (hasks : ∀ asked, LogStep.asks asked x = asked) : QuietStep s x s where
  sound := h
  standpoint := rfl
  keeps := fun _ _ => id
  fixed := rfl
  directory := by
    rw [hreadied]
    rfl
  opened := fun _ _ => .inl ⟨rfl, hasks⟩

/-- A configuration is told by what becomes of the recorder. -/
theorem configure_eq {verbosity : Int} {toFile : Bool} {dir : Option Path} {r : Recorder}
    {failed : Option LogError}
    (hresult : s.log.configure s.files verbosity toFile dir = (r, t, failed)) :
    s.configure verbosity toFile dir =
      { workspace := { files := t, log := r }, configured := s.configured || failed.isNone } := by
  change s.workspace.log.configure s.workspace.files verbosity toFile dir = _ at hresult
  rw [configure, Workspace.configureLog, hresult]
  cases failed with
  | none => exact congrArg (LogSession.mk _) (Bool.or_true s.configured).symm
  | some fault => exact congrArg (LogSession.mk _) (Bool.or_false s.configured).symm

/-- So it keeps the session sound. -/
theorem sound_configure (h : s.workspace.Sound) (verbosity : Int) (toFile : Bool)
    (dir : Option Path) : (s.configure verbosity toFile dir).workspace.Sound := by
  have hsound := h.configureLog verbosity toFile dir
  rw [configure]
  split <;> (rename_i hresult; rw [hresult] at hsound; exact hsound)

/-- Configuring with a log file in a directory. -/
theorem quietStep_file (h : s.workspace.Sound) (verbosity : Int) (dir : Path) :
    QuietStep s (.configure verbosity true (some dir))
      (s.configure verbosity true (some dir)) := by
  have hsound := sound_configure h verbosity true (some dir)
  have hwf : s.files.WellFormed := Recorder.Sound.files h
  have made := FileTree.made_makeDirectory hwf dir
  have hopens := Recorder.opensIn_openIn s.log.close s.files dir
  cases hresult : s.log.close.openIn s.files dir with
  | mk r rest =>
  obtain ⟨t, failed⟩ := rest
  rw [hresult] at hopens
  rw [configure_eq (Recorder.configure_file verbosity hresult)] at hsound ⊢
  cases hopens with
  | unmade fault hmade | unopened place fault hmade =>
    -- the file that was open has been closed by then, and only directories are new
    exact {
      sound := hsound
      standpoint := made.standpoint
      keeps := made.keeps
      fixed := rfl
      directory := by
        rw [readied?, hmade]
        rfl
      opened := fun log hopen => by cases hopen }
  | opened place t' hmade hstandpoint hkeeps =>
    have hplace : t.resolve dir = .ok place :=
      (FileTree.stands_of_grows hstandpoint hkeeps).resolve
        (FileTree.resolve_makeDirectory hwf hmade)
    exact {
      sound := hsound
      standpoint := hstandpoint.trans made.standpoint
      keeps := fun place e hentry => hkeeps place e (made.keeps place e hentry)
      fixed := rfl
      directory := by
        rw [readied?, hmade]
        rfl
      opened := by
        rintro _ ⟨rfl⟩
        refine .inr ⟨dir, fun _ => rfl, ?_⟩
        exact ⟨⟨place, hplace, rfl⟩, rfl, rfl, rfl⟩ }

/-- If it does not fail, the log file is open. -/
theorem openLog_of_configureLog {verbosity : Int} {dir : Path}
    (hdone : (s.workspace.configureLog verbosity true (some dir)).1 = .ok ()) :
    (s.configure verbosity true (some dir)).log.openLog ≠ none := by
  have hopens := Recorder.opensIn_openIn s.log.close s.files dir
  cases hresult : s.log.close.openIn s.files dir with
  | mk r rest =>
  obtain ⟨t, failed⟩ := rest
  have hconfigure : s.workspace.log.configure s.workspace.files verbosity true (some dir) = _ :=
    Recorder.configure_file verbosity hresult
  rw [hresult] at hopens
  rw [Workspace.configureLog, hconfigure] at hdone
  rw [configure_eq hconfigure]
  cases hopens with
  | unmade fault hmade | unopened place fault hmade => cases hdone
  | opened place t' hmade hstandpoint hkeeps => exact Option.some_ne_none _

/-- Configuring without one, whichever step does so. -/
theorem quietStep_console (h : s.workspace.Sound) (verbosity : Int) (dir : Option Path)
    (hreadied : s.readied? x = none) : QuietStep s x (s.configure verbosity false dir) where
  sound := sound_configure h verbosity false dir
  standpoint := rfl
  keeps := fun _ _ => id
  fixed := rfl
  directory := by
    rw [hreadied]
    rfl
  opened := fun log hopen => by cases hopen

/-- **A step that logs nothing.** -/
theorem quietStep_of_quiet (h : s.workspace.Sound) (hquiet : x.said? = none) :
    QuietStep s x (s.step x) := by
  cases x with
  | configure verbosity toFile dir =>
    cases toFile with
    | false => exact quietStep_console h verbosity dir rfl
    | true =>
      cases dir with
      | none => exact quietStep_self h rfl fun _ => rfl
      | some dir => exact quietStep_file h verbosity dir
  | close => exact ⟨h.closeLog, rfl, fun _ _ => id, rfl, rfl, fun log hopen => by cases hopen⟩
  | logger =>
    rw [step]
    split
    · exact quietStep_self h rfl fun _ => rfl
    · exact quietStep_console h 0 none rfl
  | event source level name context => cases hquiet

/-! ## The open log file -/

/-- What holds in a session at any time: it is sound, and an open log file is that of the most
recent configuration. -/
structure Consistent (s : LogSession) (asked : Option Path) : Prop where
  sound : s.workspace.Sound
  log : ∀ log, s.log.openLog = some log → ∃ dir, asked = some dir ∧ s.Holds dir log

theorem consistent_start (h : t.WellFormed) : Consistent (start t) none where
  sound := Recorder.sound_of_closed h rfl
  log := fun log hopen => by cases hopen

/-- Logging an event adds a line to a file at most. -/
theorem extends_step_of_said (hsaid : x.said? = some e) :
    FileTree.Extends s.files (s.step x).files := by
  rw [step_of_said hsaid]
  change FileTree.Extends s.files
    (if s.log.passes e then s.log.append s.files e else s.files)
  split
  · exact FileTree.extends_append s.log s.files e
  · exact .refl s.files

/-- An event leaves the log file open, and its directory where it was. -/
theorem Holds.step_of_said {dir : Path} (h : s.Holds dir log) (hsaid : x.said? = some e) :
    (s.step x).Holds dir log := by
  have hextends := extends_step_of_said (s := s) hsaid
  obtain ⟨place, hresolve, hplace⟩ := h.place
  rw [LogSession.step_of_said hsaid] at hextends ⊢
  exact {
    place := ⟨place, hextends.stands.resolve hresolve, hplace⟩
    linked := h.linked
    directory := (Recorder.directory_fix ..).trans h.directory
    threshold := (Recorder.threshold_fix ..).trans h.threshold }

/-- **One step** keeps a session consistent. -/
theorem Consistent.step (h : Consistent s asked) (x : LogStep) :
    Consistent (s.step x) (LogStep.asks asked x) := by
  cases hsaid : x.said? with
  | none =>
    have hstep := quietStep_of_quiet h.sound hsaid
    refine ⟨hstep.sound, fun log hopen => ?_⟩
    -- the file was open before, or it is the one that the step asks for
    rcases hstep.opened log hopen with ⟨hsame, hasks⟩ | ⟨dir, hasks, hholds⟩
    · rw [hsame] at hopen ⊢
      rw [hasks]
      exact h.log log hopen
    · exact ⟨dir, hasks asked, hholds⟩
  | some e =>
    obtain ⟨source, level, name, context, rfl, rfl⟩ := LogStep.exists_event_of_said hsaid
    refine ⟨h.sound.hear (.say (source.event level name context)), fun log hopen => ?_⟩
    rw [LogSession.step_of_said hsaid] at hopen
    obtain ⟨dir, hasked, hholds⟩ := h.log log ((Recorder.openLog_fix ..).symm.trans hopen)
    exact ⟨dir, hasked, hholds.step_of_said hsaid⟩

/-- **A run** keeps a session consistent. -/
theorem Consistent.run (h : Consistent s asked) (steps : List LogStep) :
    Consistent (s.run steps) (steps.foldl LogStep.asks asked) := by
  induction steps generalizing s asked with
  | nil => exact h
  | cons x steps ih => exact ih (h.step x)

theorem consistent_run (h : t.WellFormed) (steps : List LogStep) :
    Consistent ((start t).run steps) (lastAsked steps) := (consistent_start h).run steps

/-! ## The known directory -/

/-- The directory that steps have made ready for a log file last, if any. -/
def lastReadied : LogSession → List LogStep → Option Path
  | _, [] => none
  | s, x :: steps => (lastReadied (s.step x) steps).or (s.readied? x)

/-- **One step** makes a directory known, or leaves the known one. -/
theorem directory_step (h : s.workspace.Sound) (x : LogStep) :
    (s.step x).log.directory = (s.readied? x).or s.log.directory := by
  cases hsaid : x.said? with
  | none => exact (quietStep_of_quiet h hsaid).directory
  | some e =>
    obtain ⟨source, level, name, context, rfl, rfl⟩ := LogStep.exists_event_of_said hsaid
    rw [step_of_said hsaid]
    exact Recorder.directory_fix ..

/-- **A run** leaves the directory known that was made ready last. -/
theorem directory_run (h : Consistent s asked) (steps : List LogStep) :
    (s.run steps).log.directory = (lastReadied s steps).or s.log.directory := by
  induction steps generalizing s asked with
  | nil => rfl
  | cons x steps ih =>
    have hrest := ih (h.step x)
    rw [directory_step h.sound] at hrest
    rw [lastReadied, Option.or_assoc]
    exact hrest

/-- The known directory tells the log file: a directory is known just when a file is open, and it is
the directory of this file. -/
structure DirectoryTells (s : LogSession) : Prop where
  none_iff : s.log.directory = none ↔ s.log.openLog = none
  of_open : ∀ log, s.log.openLog = some log → ∃ dir place, s.log.directory = some dir ∧
    s.files.resolve dir = .ok place ∧ log.place = place ++ [logFileName]

/-- What is known of the directory after a run. -/
structure DirectoryKept (t : FileTree) (steps : List LogStep) : Prop where
  /-- it tells the open file just when one is open, or no directory was ever made ready -/
  tells_iff : DirectoryTells ((start t).run steps) ↔
    ((start t).run steps).log.openLog ≠ none ∨ lastReadied (start t) steps = none
  /-- it is the one that was made ready last, whether its file is open or not -/
  directory : ((start t).run steps).log.directory = lastReadied (start t) steps

/-- **The known directory** is that of the open log file, but nothing forgets it afterwards. -/
theorem directoryKept_run (h : t.WellFormed) (steps : List LogStep) : DirectoryKept t steps := by
  have hdirectory := directory_run (consistent_start h) steps
  rw [show (start t).log.directory = none from rfl, Option.or_none] at hdirectory
  have hopened : ∀ log, ((start t).run steps).log.openLog = some log →
      ∃ dir, ((start t).run steps).Holds dir log := by
    intro log hopen
    obtain ⟨dir, -, hholds⟩ := (consistent_run h steps).log log hopen
    exact ⟨dir, hholds⟩
  have hunknown : ((start t).run steps).log.directory = none →
      ((start t).run steps).log.openLog = none := by
    intro hnone
    rw [Option.eq_none_iff_forall_ne_some]
    intro log hopen
    obtain ⟨dir, hholds⟩ := hopened log hopen
    rw [hholds.directory] at hnone
    cases hnone
  refine ⟨⟨fun htells => ?_, fun hcase => ⟨⟨hunknown, fun hclosed => ?_⟩, ?_⟩⟩, hdirectory⟩
  · by_cases hclosed : ((start t).run steps).log.openLog = none
    · exact .inr (hdirectory.symm.trans (htells.none_iff.2 hclosed))
    · exact .inl hclosed
  · rcases hcase with hopen | hnever
    · exact absurd hclosed hopen
    · exact hdirectory.trans hnever
  · intro log hopen
    obtain ⟨dir, hholds⟩ := hopened log hopen
    obtain ⟨place, hresolve, hplace⟩ := hholds.place
    exact ⟨dir, place, hholds.directory, hresolve, hplace⟩

/-- Logging to a file in a directory, which is closed again. -/
def openAndClose : List LogStep := [.configure 0 true (some ⟨.here, ["logs"]⟩), .close]

/-- A tree with nothing in it. -/
def bareTree : FileTree := { here := [] }

theorem wellFormed_bareTree : bareTree.WellFormed := by
  have hsound : Workspace.Sound { files := bareTree } := Workspace.sound_empty (by simp)
  exact Recorder.Sound.files hsound

theorem directoryKept_openAndClose : bareTree.WellFormed ∧ DirectoryKept bareTree openAndClose ∧
    lastReadied (start bareTree) openAndClose = some ⟨.here, ["logs"]⟩ :=
  ⟨wellFormed_bareTree, directoryKept_run wellFormed_bareTree openAndClose, by decide +kernel⟩

/-- The directory of a log file is known when the file has been closed. -/
theorem openAndClose_still_known :
    ((start bareTree).run openAndClose).log.openLog = none ∧
    ((start bareTree).run openAndClose).log.directory = some ⟨.here, ["logs"]⟩ ∧
    ¬ DirectoryTells ((start bareTree).run openAndClose) := by
  have hclosed : ((start bareTree).run openAndClose).log.openLog = none := by decide +kernel
  have hknown : ((start bareTree).run openAndClose).log.directory = some ⟨.here, ["logs"]⟩ := by
    decide +kernel
  refine ⟨hclosed, hknown, fun htells => ?_⟩
  rw [htells.none_iff.2 hclosed] at hknown
  cases hknown

end LogSession
end QuestFlow

import Mathlib.Logic.Relation
import QuestFlow.Proofs.Files.Changing
import QuestFlow.Proofs.Log.Entry
import QuestFlow.Workspace

/-!
# What a workspace keeps

Whatever is done in a workspace, one thing after another, its files stay those of a file system, and
a log file that is open is among them for as long as it is in its directory (`Workspace.Sound`).

1. **Recording** adds entries to a file that is there (`Sound.recordAll`, by induction on the
   events).
2. **Configuring** opens a log file that is there then (`sound_configure`).
3. **A step** is anything that can be done in a workspace (`Workspace.Step`), and keeps it sound
   (`Step.sound`).  So does a session, which is one step after another (`sound_of_steps`); it may
   start with no files at all (`sound_empty`).
-/

namespace QuestFlow

open Relation (ReflTransGen)

variable {r : Recorder} {t : FileTree}

/-- The files are those of a file system, and an open log file is one of them, unless it has been
removed. -/
structure Recorder.Sound (r : Recorder) (t : FileTree) : Prop where
  files : t.WellFormed
  log : ∀ log, r.openLog = some log → log.linked = true → t.IsFile log.place

namespace Recorder

/-- Without an open log file there is nothing to keep but the files. -/
theorem sound_of_closed (h : t.WellFormed) (hclosed : r.openLog = none) : r.Sound t where
  files := h
  log := by
    intro log hopen
    rw [hclosed] at hopen
    cases hopen

/-- Only the open log file counts. -/
theorem Sound.of_openLog {r' : Recorder} (h : r.Sound t) (hsame : r'.openLog = r.openLog) :
    r'.Sound t where
  files := h.files
  log := fun log hopen => h.log log (hsame ▸ hopen)

/-! ## Recording -/

theorem Sound.append (h : r.Sound t) (e : Event) : r.Sound (r.append t e) := by
  rw [Recorder.append]
  split
  · rename_i log hopen
    split
    · exact {
        files := h.files.appendLog log.place _
        log := fun other hother hlinked =>
          FileTree.isFile_appendLog (h.log other hother hlinked) log.place _ }
    · exact h
  · exact h

theorem Sound.record (h : r.Sound t) (e : Event) : r.Sound (r.record t e) := by
  rw [Recorder.record]
  split
  · exact h.append _
  · exact h

theorem Sound.recordOwn (h : r.Sound t) (e : Event) :
    (r.recordOwn t e).1.Sound (r.recordOwn t e).2 := by
  have hsame := openLog_fix r e.logger
  rw [recordOwn_eq]
  dsimp only
  split
  · exact (h.append _).of_openLog hsame
  · exact h.of_openLog hsame

/-- **Recording** events, one after another. -/
theorem Sound.recordAll (h : r.Sound t) (es : List Event) :
    (r.recordAll t es).1.Sound (r.recordAll t es).2 := by
  induction es generalizing r t with
  | nil => exact h
  | cons e es ih => exact ih (h.recordOwn e)

/-! ## Configuring -/

/-- Opening a log file in a directory. -/
theorem sound_openAt {dir : Place} (h : t.WellFormed) (hdir : t.isDirectoryAt dir = true)
    (hclosed : r.openLog = none) :
    (r.openAt t dir).1.Sound (r.openAt t dir).2.1 := by
  rw [openAt]
  split
  · exact sound_of_closed h hclosed
  · split
    · exact sound_of_closed h hclosed
    · rename_i content hfile
      refine ⟨h, ?_⟩
      rintro _ ⟨rfl⟩ -
      exact ⟨content, hfile⟩
    · rename_i habsent
      refine ⟨h.put_named hdir (by decide) habsent, ?_⟩
      rintro _ ⟨rfl⟩ -
      exact ⟨.empty, FileTree.entry?_put_self (FileTree.isPrefixOf_of_absent habsent)⟩

theorem sound_openIn (h : t.WellFormed) (hclosed : r.openLog = none) (dir : Path) :
    (r.openIn t dir).1.Sound (r.openIn t dir).2.1 := by
  have made := FileTree.made_makeDirectory h dir
  rw [openIn]
  cases hmade : t.makeDirectory dir with
  | mk outcome t' =>
    rw [hmade] at made
    cases outcome with
    | error fault => exact sound_of_closed made.wellFormed hclosed
    | ok place => exact sound_openAt made.wellFormed (made.leads place rfl).2 hclosed

/-- **Configuring**, whether it comes to an end or not. -/
theorem Sound.configure (h : r.Sound t) (verbosity : Int) (toFile : Bool) (dir : Option Path) :
    (r.configure t verbosity toFile dir).1.Sound (r.configure t verbosity toFile dir).2.1 := by
  cases toFile with
  | false => exact sound_of_closed h.files rfl
  | true =>
    cases dir with
    | none => exact h
    | some dir =>
      have hopened := sound_openIn (r := r.close) h.files rfl dir
      unfold Recorder.configure
      dsimp only
      split
      · rename_i hresult
        rw [hresult] at hopened
        exact hopened.of_openLog rfl
      · rename_i hresult
        rw [hresult] at hopened
        exact hopened

end Recorder

/-! ## Steps -/

namespace Workspace

variable {w w' : Workspace}

/-- The files and the log of the workspace are sound. -/
def Sound (w : Workspace) : Prop := w.log.Sound w.files

/-- Everything that can be done in a workspace: changing its files, doing work that has something to
say, and configuring the log. -/
inductive Step (w : Workspace) : Workspace → Prop
  | write (p : Path) (e : FileEntry) : Step w (w.write p e).2
  | remove (p : Path) : Step w (w.remove p).2
  | work {α : Type} (l : Logged α) : Step w (w.hear l).2
  | remark (r : Remark) : Step w (w.remark r)
  | configureLog (verbosity : Int) (toFile : Bool) (dir : Option Path) :
      Step w (w.configureLog verbosity toFile dir).2
  | closeLog : Step w w.closeLog
  | command (args : List String) (env : Environment) : Step w (w.command args env).2

theorem Sound.write (h : w.Sound) (p : Path) (e : FileEntry) : (w.write p e).2.Sound where
  files := Recorder.Sound.files h |>.write p e
  log := fun log hopen hlinked =>
    FileTree.isFile_write (Recorder.Sound.files h) (Recorder.Sound.log h log hopen hlinked) p e

/-- A log file that is removed is no longer in its directory. -/
theorem Sound.remove (h : w.Sound) (p : Path) : (w.remove p).2.Sound := by
  have hfiles : w.files.WellFormed := Recorder.Sound.files h
  rw [Workspace.remove]
  split
  · rename_i place hresolve
    refine ⟨hfiles.remove p place, ?_⟩
    intro log hopen hlinked
    obtain ⟨log', hopen', rfl⟩ := Option.map_eq_some_iff.1 hopen
    rw [Bool.and_eq_true, Bool.not_eq_true'] at hlinked
    exact FileTree.isFile_remove hfiles (Recorder.Sound.log h log' hopen' hlinked.1) hlinked.2 p
  · exact h

theorem Sound.hear {α : Type} (h : w.Sound) (l : Logged α) : (w.hear l).2.Sound :=
  Recorder.Sound.recordAll h l.events

theorem Sound.remark (h : w.Sound) (r : Remark) : (w.remark r).Sound :=
  Recorder.Sound.record h _

theorem Sound.configureLog (h : w.Sound) (verbosity : Int) (toFile : Bool) (dir : Option Path) :
    (w.configureLog verbosity toFile dir).2.Sound := by
  have hconfigured := Recorder.Sound.configure h verbosity toFile dir
  rw [Workspace.configureLog]
  split <;> (rename_i hresult; rw [hresult] at hconfigured; exact hconfigured)

theorem Sound.closeLog (h : w.Sound) : w.closeLog.Sound :=
  Recorder.sound_of_closed (Recorder.Sound.files h) rfl

theorem Sound.command (h : w.Sound) (args : List String) (env : Environment) :
    (w.command args env).2.Sound := by
  rw [Workspace.command]
  split
  · exact h
  · rename_i g hread
    split
    · exact h
    · dsimp only
      split
      · exact h
      · have hconfigured := h.configureLog g.verbosity g.logToFile
          (if g.logToFile then some commandLogs else none)
        split
        · rename_i hresult
          rw [hresult] at hconfigured
          exact hconfigured
        · rename_i hresult
          rw [hresult] at hconfigured
          split
          · exact hconfigured
          · split
            · exact hconfigured
            · exact hconfigured.hear _

/-- **A step** keeps a workspace sound. -/
theorem Step.sound (hstep : Step w w') (h : w.Sound) : w'.Sound := by
  cases hstep with
  | write p e => exact h.write p e
  | remove p => exact h.remove p
  | work l => exact h.hear l
  | remark r => exact h.remark r
  | configureLog verbosity toFile dir => exact h.configureLog verbosity toFile dir
  | closeLog => exact h.closeLog
  | command args env => exact h.command args env

/-- **A session** keeps a workspace sound. -/
theorem sound_of_steps (hsteps : ReflTransGen Step w w') (h : w.Sound) : w'.Sound := by
  induction hsteps with
  | refl => exact h
  | tail _ hstep ih => exact hstep.sound ih

/-- A session that starts with no files. -/
theorem sound_empty {here : Place} (hhere : ∀ name ∈ here, IsFileName name) :
    Workspace.Sound { files := { here } } :=
  Recorder.sound_of_closed ⟨List.nodup_nil, by simp, by simp, by simp, hhere⟩ rfl

end Workspace
end QuestFlow

import QuestFlow.Log.Recorder
import QuestFlow.Proofs.Document.Record
import QuestFlow.Proofs.Files.Tree

/-!
# What becomes of events in a log file

1. **One event** whose keys are distinct, and none of those that the recorder uses itself, becomes
   an entry with all of them, behind the level, the logger and the name (`entry_eq`); and it can be
   written if all that it says can be (`isWritable_eq`).
2. **One step**: an event is let through or not (`Recorder.passes`).  Which ones are does not change
   while events are recorded: the level that a logger fixes at its first event is the one that it
   would be judged by without having fixed it (`passes_fix`).
3. **A run** adds the entries of the events that are let through and can be written to the open log
   file, in order, and nothing else (`entry?_recordAll`).
-/

namespace QuestFlow

variable {name : String} {v : Value} {fs gs : Fields}

/-! ## Entries of distinct keys -/

namespace Json

/-- Only the same text names the same entry as a text. -/
theorem sameAs_text (k : Key) (name : String) : k.sameAs (.text name) = (k == .text name) := by
  cases k <;> simp [Key.sameAs, Key.number?, Key.isReflexive]
  split <;> simp_all

/-- A value under a new key comes behind all others. -/
theorem put_of_notMem (h : name ∉ fs.map (·.1)) :
    put (.text name) v (entriesOf fs) = entriesOf (fs ++ [(name, v)]) := by
  induction fs with
  | nil => rfl
  | cons f fs ih =>
    obtain ⟨n, w⟩ := f
    simp only [List.map_cons, List.mem_cons, not_or] at h
    have hne : (Key.text n).sameAs (.text name) = false := by
      rw [sameAs_text]
      simpa using fun heq => h.1 heq.symm
    have hrest := ih h.2
    simp only [entriesOf, List.map_cons, List.cons_append] at hrest ⊢
    rw [put, hne, if_neg Bool.false_ne_true, hrest]

/-- Values under new keys come one behind the other. -/
theorem foldl_put (h : ((fs ++ gs).map (·.1)).Nodup) :
    gs.foldl (fun es (key, value) => put (.text key) value es) (entriesOf fs) =
      entriesOf (fs ++ gs) := by
  induction gs generalizing fs with
  | nil => rw [List.append_nil]; rfl
  | cons g gs ih =>
    obtain ⟨n, w⟩ := g
    have hn : n ∉ fs.map (·.1) := by
      rw [List.map_append, List.nodup_append] at h
      exact fun hmem => h.2.2 n hmem n List.mem_cons_self rfl
    have hsplit : fs ++ (n, w) :: gs = fs ++ [(n, w)] ++ gs := by simp
    rw [hsplit] at h ⊢
    rw [← ih h, ← put_of_notMem hn]
    rfl

/-- Distinct keys are settled as they are. -/
theorem settle_entriesOf (h : (fs.map (·.1)).Nodup) : settle (entriesOf fs) = entriesOf fs := by
  rw [settle, entriesOf, List.foldl_map]
  exact @foldl_put [] fs h

theorem entriesAsRead_entriesOf (fs : Fields) :
    entriesAsRead (entriesOf fs) = entriesOf (fs.map fun (n, v) => (n, asRead v)) := by
  induction fs with
  | nil => rfl
  | cons f fs ih =>
    simp only [entriesOf, List.map_cons] at ih ⊢
    rw [entriesAsRead, ih, keyText]

/-- Fields with distinct keys are read back one by one. -/
theorem asRead_ofFields (h : (fs.map (·.1)).Nodup) :
    asRead (.ofFields fs) = .ofFields (fs.map fun (n, v) => (n, asRead v)) := by
  have hkeys : ((fs.map fun (n, v) => (n, asRead v)).map (·.1)).Nodup := by
    rwa [List.map_map]
  change asRead (.mapping (entriesOf fs)) = .mapping (entriesOf _)
  rw [asRead, entriesAsRead_entriesOf, settle_entriesOf hkeys]

/-- Fields can be written if their values can be. -/
theorem isWritable_ofFields (fs : Fields) :
    isWritable (.ofFields fs) = fs.all fun (_, v) => isWritable v := by
  change entriesWritable (entriesOf fs) = _
  induction fs with
  | nil => rfl
  | cons f fs ih =>
    simp only [entriesOf, List.map_cons] at ih ⊢
    rw [entriesWritable, ih, List.all_cons]
    -- the key is a text, so it is no number that would have to be written too
    intro n hkey
    cases hkey

end Json

namespace Recorder

/-! ## The entry of an event -/

/-- What every entry begins with. -/
def entryHead (e : Event) : Fields :=
  [("level", .text e.level.name), ("logger", .text e.logger), ("message", .text e.name)]

/-- The keys that an event has to leave to the recorder. -/
def ownKeys : List String := [Content.timeKey, "level", "logger", "message"]

section Distinct

variable {e : Event} (h : (ownKeys ++ e.context.map (·.1)).Nodup)

include h

theorem nodup_head : ((entryHead e ++ e.context).map (·.1)).Nodup := by
  rw [List.map_append]
  exact (List.nodup_cons.1 h).2

/-- An event that leaves the recorder its keys has what it says behind the head of its entry. -/
theorem entryFields_eq : Value.mapping (entryFields e) = .ofFields (entryHead e ++ e.context) := by
  have hkept : (e.context.filter fun (key, _) => !reservedKeys.contains key) = e.context := by
    rw [List.filter_eq_self]
    intro (key, v) hmem
    have hown : key ∉ ownKeys := fun hown =>
      (List.nodup_append.1 h).2.2 key hown key (List.mem_map_of_mem hmem) rfl
    simp only [ownKeys, List.mem_cons, not_or] at hown
    simp [reservedKeys, hown.1, hown.2.1]
  rw [entryFields, hkept]
  have hput := Json.foldl_put (nodup_head h)
  exact congrArg Value.mapping hput

/-- **It becomes an entry** with all that it says. -/
theorem entry_eq :
    entry e = .ofFields (entryHead e ++ e.context.map fun (n, v) => (n, Json.asRead v)) := by
  have hread := Json.asRead_ofFields (nodup_head h)
  rw [List.map_append] at hread
  rw [entry, entryFields_eq h, hread]
  rfl

/-- **It can be written** if all that it says can be. -/
theorem isWritable_eq : isWritable e = e.context.all fun (_, v) => Json.isWritable v := by
  rw [isWritable, entryFields_eq h, Json.isWritable_ofFields, List.all_append]
  rfl

end Distinct

/-- Under a key that is not the recorder's, an entry has what the event says. -/
theorem field?_entry {e : Event} (h : (ownKeys ++ e.context.map (·.1)).Nodup)
    (hname : name ∉ ownKeys) :
    (entry e).field? name = (e.context.lookup name).map Json.asRead := by
  have hhead : (entryHead e).lookup name = none := by
    refine lookup_eq_none_of_notMem fun v hmem => hname (List.mem_cons_of_mem _ ?_)
    exact List.mem_map_of_mem (f := Prod.fst) hmem
  have hfields : ∀ fs : Fields, Value.field? name (.ofFields fs) = fs.lookup name := fun fs =>
    lookup_entriesOf name fs
  have hcontext : ∀ context : Fields,
      (context.map fun (n, v) => (n, Json.asRead v)).lookup name =
        (context.lookup name).map Json.asRead := by
    intro context
    induction context with
    | nil => rfl
    | cons f context ih =>
      obtain ⟨n, v⟩ := f
      simp only [List.map_cons, List.lookup_cons, ih]
      cases name == n <;> rfl
  rw [entry_eq h, hfields, List.lookup_append, hcontext, hhead, Option.none_or]

/-! ## Which events are let through -/

/-- Whether an event of this program is let through: by the level of its logger, and by the
threshold. -/
def passes (r : Recorder) (e : Event) : Bool :=
  (r.fixedLevel e.logger).number ≤ e.level.number &&
    (r.thresholdOf e.logger).number ≤ e.level.number

variable {r : Recorder} {t : FileTree} {e : Event}

@[simp] theorem openLog_fix (r : Recorder) (logger : String) :
    (r.fix logger).openLog = r.openLog := by
  unfold fix
  split <;> rfl

@[simp] theorem threshold_fix (r : Recorder) (logger : String) :
    (r.fix logger).threshold = r.threshold := by
  unfold fix
  split <;> rfl

@[simp] theorem thresholdOf_fix (r : Recorder) (logger other : String) :
    (r.fix logger).thresholdOf other = r.thresholdOf other := by
  simp only [thresholdOf, threshold_fix]

/-- A logger that fixes its level fixes the one that it has. -/
@[simp] theorem fixedLevel_fix (r : Recorder) (logger other : String) :
    (r.fix logger).fixedLevel other = r.fixedLevel other := by
  cases hfixed : r.fixed.lookup logger with
  | some level => simp only [fix, hfixed]
  | none =>
    simp only [fixedLevel, fix, hfixed, List.lookup_append]
    by_cases hother : other = logger
    · subst hother
      simp [hfixed]
    · have hne : (other == logger) = false := by simpa using hother
      simp [List.lookup_cons, hne]

/-- So the same events are let through after it. -/
@[simp] theorem passes_fix (r : Recorder) (logger : String) : (r.fix logger).passes = r.passes := by
  funext e
  simp only [passes, fixedLevel_fix, thresholdOf_fix]

/-! ## Recording -/

/-- Whether an event leaves a line in an open log file: it is let through and can be written. -/
def keeps (r : Recorder) (e : Event) : Bool := r.passes e && isWritable e

/-- **One step**: an event that is let through is added to the open log. -/
theorem recordOwn_eq : r.recordOwn t e =
    (r.fix e.logger, if r.passes e then r.append t e else t) := by
  have happend : (r.fix e.logger).append t e = r.append t e := by
    simp only [append, openLog_fix]
  simp only [recordOwn, record, fixedLevel_fix, thresholdOf_fix, happend, passes,
    Bool.and_eq_true, decide_eq_true_eq]
  split
  all_goals
    rename_i hlevel
    simp [hlevel]

/-- An open log file that is in its directory gets an entry for what can be written. -/
theorem append_of_open {log : OpenLog} (hopen : r.openLog = some log) (hlinked : log.linked = true)
    (e : Event) : r.append t e = if isWritable e then t.appendLog log.place (entry e) else t := by
  rw [append, hopen]
  simp only [hlinked, Bool.true_and]

/-- **A run** adds what is let through and can be written to the log file, in order. -/
theorem entry?_recordAll {log : OpenLog} {es : List Event} {content : Content}
    (hopen : r.openLog = some log) (hlinked : log.linked = true)
    (hfile : t.entry? log.place = some (.file content)) :
    FileTree.entry? (r.recordAll t es).2 log.place =
      some (.file { content with log := content.log ++ (es.filter r.keeps).map entry }) := by
  induction es generalizing r t content with
  | nil => simpa [recordAll] using hfile
  | cons e es ih =>
    rw [recordAll, recordOwn_eq, append_of_open hopen hlinked]
    have hopen' : (r.fix e.logger).openLog = some log := by rw [openLog_fix, hopen]
    have hkeeps : (r.fix e.logger).keeps = r.keeps := by
      funext e'
      simp only [keeps, passes_fix]
    by_cases hkept : r.keeps e = true
    · obtain ⟨hpass, hwritable⟩ := Bool.and_eq_true_iff.1 hkept
      have hrest := ih hopen' (FileTree.entry?_appendLog hfile (entry e))
      rw [hkeeps] at hrest
      simpa [hpass, hwritable, hkept, Content.append] using hrest
    · have hrest := ih hopen' hfile
      rw [hkeeps] at hrest
      have hsame : (if r.passes e = true then
          if isWritable e = true then t.appendLog log.place (entry e) else t else t) = t := by
        rw [keeps, Bool.and_eq_true] at hkept
        split
        · rename_i hpass
          exact if_neg fun hwritable => hkept ⟨hpass, hwritable⟩
        · rfl
      simpa [hsame, hkept] using hrest

end Recorder
end QuestFlow

import QuestFlow.Files.Checking
import QuestFlow.Proofs.Quest.Reading
import QuestFlow.Proofs.Repository.BreakingOff

/-!
# What a check looks at

A check that comes to a report has loaded the catalog and the quests, all messages about these can
be written, and its report is that of the loaded quests with the broken files added
(`check_eq_ok_iff`); a check that breaks down does so over one of these
(`check_eq_breakdown_iff`).  Each loaded quest comes from a file that can be read
(`exists_read_of_mem_loadQuests`).
-/

namespace QuestFlow

namespace FileTree

variable {t : FileTree} {dir p : Path} {q : Quest} {settings : Settings}

/-- **Loading** gives what the files hold, once they are found and the reader breaks down over
none. -/
theorem loadQuests_eq_ok_iff {loaded : LoadedQuests} : (t.loadQuests dir).value = .ok loaded ↔
    ∃ paths, t.questPaths dir = .ok paths ∧ (∀ p ∈ paths, t.breakdownAt? p = none) ∧
      loaded = ⟨t.loadedAmong paths, t.brokenAmong paths⟩ := by
  rw [loadQuests]
  cases t.questPaths dir with
  | error e => simp [Logged.quiet]
  | ok paths =>
    have hnone : paths.findSome? t.breakdownAt? = none ↔ ∀ p ∈ paths, t.breakdownAt? p = none :=
      List.findSome?_eq_none_iff
    cases hfound : paths.findSome? t.breakdownAt? with
    | some b =>
      have hsome : ¬ ∀ p ∈ paths, t.breakdownAt? p = none := by
        rw [← hnone, hfound]
        exact Option.some_ne_none b
      simp [hfound, hsome]
    | none =>
      have hloaded : (Except.ok ⟨t.loadedAmong paths, t.brokenAmong paths⟩ :
          Except Failure LoadedQuests) = .ok loaded ↔
            loaded = ⟨t.loadedAmong paths, t.brokenAmong paths⟩ := by
        rw [Except.ok.injEq, eq_comm]
      simpa [hfound, hloaded] using fun _ => hnone.1 hfound

/-- **A report** is that of the loaded quests, with the broken files added. -/
theorem check_eq_ok_iff {r : Report} : (t.check settings).value = .ok r ↔
    ∃ catalog loaded, (t.loadCatalog settings.dataDir).value = .ok catalog ∧
      (t.loadQuests settings.questsDir).value = .ok loaded ∧
      (∀ q ∈ loaded.quests, q.Reportable (settings.ruleContext catalog)) ∧
      r = { (checkQuests loaded.quests catalog settings).value with
        brokenFiles := loaded.broken } := by
  rw [check, Logged.value_andThenOk]
  cases (t.loadCatalog settings.dataDir).value with
  | error e => simp [Except.bind]
  | ok catalog =>
    simp only [Except.bind, Logged.value_andThenOk]
    cases (t.loadQuests settings.questsDir).value with
    | error e => simp
    | ok loaded =>
      have hchecked := @value_checkAll_eq_ok_iff loaded.quests catalog settings
      cases hvalue : (checkAll loaded.quests catalog settings).value with
      | error e =>
        have hnot : ¬ ∀ q ∈ loaded.quests, q.Reportable (settings.ruleContext catalog) := by
          intro hall
          cases hvalue.symm.trans (hchecked.2 ⟨hall, rfl⟩)
        simp [hvalue, Except.mapError, hnot]
      | ok checked =>
        obtain ⟨hall, rfl⟩ := hchecked.1 hvalue
        have hreport : ∀ r' : Report, (Except.ok r' : Except Failure Report) = .ok r ↔ r = r' :=
          fun r' => by rw [Except.ok.injEq, eq_comm]
        simpa [hvalue, Except.mapError, hreport] using fun _ => hall

/-- **A check breaks down** if loading the catalog does, or loading the quests, or a message about
one of them cannot be written. -/
theorem check_eq_breakdown_iff : (∃ b, (t.check settings).value = .error (.breakdown b)) ↔
    (∃ b, (t.loadCatalog settings.dataDir).value = .error (.breakdown b)) ∨
      ∃ catalog, (t.loadCatalog settings.dataDir).value = .ok catalog ∧
        ((∃ b, (t.loadQuests settings.questsDir).value = .error (.breakdown b)) ∨
          ∃ loaded, (t.loadQuests settings.questsDir).value = .ok loaded ∧
            ∃ q ∈ loaded.quests, ¬ q.Reportable (settings.ruleContext catalog)) := by
  rw [check, Logged.value_andThenOk]
  cases (t.loadCatalog settings.dataDir).value with
  | error e => simp [Except.bind]
  | ok catalog =>
    simp only [Except.bind, Logged.value_andThenOk]
    cases (t.loadQuests settings.questsDir).value with
    | error e => simp
    | ok loaded =>
      have hchecked := @value_checkAll_eq_ok_iff loaded.quests catalog settings
      cases hvalue : (checkAll loaded.quests catalog settings).value with
      | error e =>
        have hnot : ¬ ∀ q ∈ loaded.quests, q.Reportable (settings.ruleContext catalog) := by
          intro hall
          cases hvalue.symm.trans (hchecked.2 ⟨hall, rfl⟩)
        simpa [hvalue, Except.mapError] using hnot
      | ok checked =>
        have hall := (hchecked.1 hvalue).1
        simpa [hvalue, Except.mapError] using hall

/-- What is in a file is the quest that its document describes. -/
theorem questIn_eq_ok_iff {held : Except ReadFault Value} : questIn p held = .ok q ↔
    ∃ document, held = .ok document ∧ Quest.ofDocument document (some p) = .ok q := by
  cases held with
  | ok document =>
    rw [questIn]
    cases hquest : Quest.ofDocument document (some p) <;> simp [Except.mapError, hquest]
  | error fault =>
    rw [questIn]
    cases fault.breakdown? p <;> simp

/-- A quest in a file knows the file. -/
theorem source_of_questIn {held : Except ReadFault Value} (h : questIn p held = .ok q) :
    q.source = some p := by
  obtain ⟨document, -, hquest⟩ := questIn_eq_ok_iff.1 h
  obtain ⟨es, q₀, -, -, rfl⟩ := Quest.ofDocument_eq_ok_iff.1 hquest
  rfl

/-- What is loaded from a file is the quest that its document describes. -/
theorem loadQuest_eq_ok_iff : t.loadQuest p = .ok q ↔
    ∃ document, t.read p = .ok document ∧ Quest.ofDocument document (some p) = .ok q :=
  questIn_eq_ok_iff

/-- A path at which something can be read leads to a file. -/
theorem find?_of_read {document : Value} (h : t.read p = .ok document) :
    ∃ content, t.find? p = .ok (some (.file content)) := by
  rw [read] at h
  rw [find?]
  cases hplace : t.resolve p with
  | error fault => simp [hplace] at h
  | ok place =>
    simp only [hplace] at h ⊢
    cases hentry : t.entry? place with
    | none => simp [hentry] at h
    | some e =>
      simp only [hentry, readAt] at h
      split at h
      · cases h
      · cases e with
        | directory => cases h
        | file content => exact ⟨content, rfl⟩

/-- **Each loaded quest** comes from a file that can be read. -/
theorem exists_read_of_mem_loadQuests {loaded : LoadedQuests}
    (h : (t.loadQuests dir).value = .ok loaded) (hq : q ∈ loaded.quests) :
    ∃ p document, q.source = some p ∧ t.read p = .ok document ∧ t.loadQuest p = .ok q ∧
      Quest.ofDocument document (some p) = .ok q := by
  obtain ⟨paths, -, -, rfl⟩ := loadQuests_eq_ok_iff.1 h
  obtain ⟨p, -, hload⟩ := List.mem_filterMap.1 hq
  have hquest : t.loadQuest p = .ok q := by
    cases hresult : t.loadQuest p with
    | error e => simp [hresult, Except.toOption] at hload
    | ok q' =>
      rw [hresult] at hload
      rw [Option.some.inj hload]
  obtain ⟨document, hread, hdocument⟩ := loadQuest_eq_ok_iff.1 hquest
  exact ⟨p, document, source_of_questIn hquest, hread, hquest, hdocument⟩

end FileTree
end QuestFlow

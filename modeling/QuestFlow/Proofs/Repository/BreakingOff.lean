import QuestFlow.Repository.Checking

/-!
# Checks that break off

A check comes to its end just when all of its messages can be written, and then it gives what
`checkQuests` says.  Otherwise it breaks off at the first quest with a message that cannot be.

1. **One quest** is reportable, and then checking it gives all of its issues and says all of its
   events; or it is not, and then it gives and says nothing (`check_of_reportable`,
   `check_of_not_reportable`).
2. **Quests one after another** follow by induction: the crux is that what was said before a quest
   that is not reportable stays said (`checkEach_of_reportable`, `exists_checkEach_of_split`).
3. **All quests**: a check either ends, or it breaks off and has said a first part of what it would
   have said (`checkAll_of_reportable`, `value_checkAll_eq_ok_iff`,
   `events_checkAll_prefix_checkQuests`).
4. **Lines** name the nodes, and can be written if all IDs of nodes in them can
   (`Report.writtenLines_eq_ok_iff`).
-/

namespace QuestFlow

variable {context : RuleContext} {q : Quest} {qs : List Quest}

/-- Either something holds of all members of a list, or there is a first one of which it does
not. -/
theorem forall_or_first {α : Type} (holds : α → Prop) (xs : List α) : (∀ x ∈ xs, holds x) ∨
    ∃ before x after, xs = before ++ x :: after ∧ (∀ y ∈ before, holds y) ∧ ¬ holds x := by
  induction xs with
  | nil => exact .inl (List.forall_mem_nil _)
  | cons x xs ih =>
    by_cases hx : holds x
    · rcases ih with hxs | ⟨before, y, after, rfl, hbefore, hy⟩
      · exact .inl (List.forall_mem_cons.2 ⟨hx, hxs⟩)
      · exact .inr ⟨x :: before, y, after, rfl, List.forall_mem_cons.2 ⟨hx, hbefore⟩, hy⟩
    · exact .inr ⟨[], x, xs, rfl, List.forall_mem_nil _, hx⟩

/-! ## Computations that can fail -/

namespace Logged

variable {α β ε ε' : Type}

@[simp] theorem value_andThen (a : Logged α) (f : α → Logged β) :
    (a.andThen f).value = (f a.value).value := rfl

@[simp] theorem value_quiet (a : α) : (quiet a).value = a := rfl

@[simp] theorem value_mapError (f : ε → ε') (a : Logged (Except ε α)) :
    (a.mapError f).value = a.value.mapError f := rfl

/-- A computation that can fail gives what its parts give, one after the other. -/
@[simp] theorem value_andThenOk (a : Logged (Except ε α)) (f : α → Logged (Except ε β)) :
    (a.andThenOk f).value = a.value.bind fun x => (f x).value := by
  rw [andThenOk, value_andThen]
  cases a.value <;> rfl

/-- After success it goes on. -/
theorem andThenOk_of_ok {a : Logged (Except ε α)} {x : α} (h : a.value = .ok x)
    (f : α → Logged (Except ε β)) :
    a.andThenOk f = ⟨(f x).value, a.events ++ (f x).events⟩ := by
  rw [andThenOk, andThen, h]

/-- After a failure it does not. -/
theorem andThenOk_of_error {a : Logged (Except ε α)} {e : ε} (h : a.value = .error e)
    (f : α → Logged (Except ε β)) : a.andThenOk f = ⟨.error e, a.events⟩ := by
  rw [andThenOk, andThen, h]
  exact congrArg (Logged.mk _) (List.append_nil _)

end Logged

/-! ## One quest -/

/-- Whether the message about a finding can be written: the ID that it names, if it names one, has
not too many digits. -/
def Finding.Writable (f : Finding) : Prop :=
  ∀ id, f.problem.target? = some id → IntegerText.isWritable id = true

instance (f : Finding) : Decidable f.Writable :=
  decidable_of_iff (f.problem.target?.all IntegerText.isWritable = true)
    (by rw [Finding.Writable, Option.all_eq_true])

/-- Whether all messages about a quest can be written. -/
def Quest.Reportable (context : RuleContext) (q : Quest) : Prop :=
  ∀ f ∈ q.findings context, f.Writable

instance : Decidable (q.Reportable context) :=
  decidable_of_iff ((q.findings context).all (fun f => decide f.Writable) = true)
    (by simp [Quest.Reportable])

/-- Findings are reported just if all messages about them can be written. -/
theorem Finding.writtenIssues_eq_ok_iff {fs : List Finding} {issues : List Issue} :
    writtenIssues fs = .ok issues ↔ (∀ f ∈ fs, f.Writable) ∧ fs.map (·.issue) = issues := by
  rw [writtenIssues, IntegerText.naming_eq_ok_iff]
  simp only [List.mem_filterMap, forall_exists_index, and_imp]
  refine and_congr_left fun _ => ⟨fun h f hf id hid => h id f hf hid, ?_⟩
  exact fun h id f hf hid => h f hf id hid

/-- Otherwise the ID in the first message that cannot be is told. -/
theorem Finding.writtenIssues_eq_error_iff {fs : List Finding} {e : TooManyDigits} :
    writtenIssues fs = .error e ↔ ∃ before f after, fs = before ++ f :: after ∧
      (∀ g ∈ before, g.Writable) ∧ f.problem.target? = some e.number ∧
        IntegerText.isWritable e.number = false := by
  rw [writtenIssues, IntegerText.naming_eq_error_iff]
  constructor
  · rintro ⟨ids, rest, hsplit, hids, hlong⟩
    obtain ⟨before, tail, rfl, rfl, htail⟩ := List.filterMap_eq_append_iff.1 hsplit
    obtain ⟨silent, f, after, rfl, hsilent, hf, -⟩ := List.filterMap_eq_cons_iff.1 htail
    refine ⟨before ++ silent, f, after, (List.append_assoc ..).symm, ?_, hf, hlong⟩
    intro g hg id hid
    rcases List.mem_append.1 hg with hg | hg
    · exact hids id (List.mem_filterMap.2 ⟨g, hg, hid⟩)
    · cases (hsilent g hg).symm.trans hid
  · rintro ⟨before, f, after, rfl, hbefore, hf, hlong⟩
    refine ⟨before.filterMap (·.problem.target?), after.filterMap (·.problem.target?), ?_, ?_,
      hlong⟩
    · rw [List.filterMap_append]
      exact congrArg (_ ++ ·) (List.filterMap_cons_some hf)
    · intro id hid
      obtain ⟨g, hg, hid⟩ := List.mem_filterMap.1 hid
      exact hbefore g hg id hid

namespace Quest

theorem writtenIssues_eq_ok_iff {issues : List Issue} : q.writtenIssues context = .ok issues ↔
    q.Reportable context ∧ q.issues context = issues :=
  Finding.writtenIssues_eq_ok_iff

/-- A quest that is not reportable has no list of issues. -/
theorem exists_writtenIssues_of_not_reportable (h : ¬ q.Reportable context) :
    ∃ e, q.writtenIssues context = .error e := by
  cases hwritten : q.writtenIssues context with
  | ok issues => exact absurd (writtenIssues_eq_ok_iff.1 hwritten).1 h
  | error e => exact ⟨e, rfl⟩

/-- **A reportable quest** is checked to the end. -/
theorem check_of_reportable (h : q.Reportable context) :
    q.check context = ⟨.ok (q.issues context), q.checkEvents context⟩ := by
  rw [check, writtenIssues_eq_ok_iff.2 ⟨h, rfl⟩]

/-- **Any other** leaves nothing. -/
theorem check_of_not_reportable (h : ¬ q.Reportable context) :
    ∃ e, q.check context = .quiet (.error e) := by
  obtain ⟨e, he⟩ := exists_writtenIssues_of_not_reportable h
  exact ⟨e, by rw [check, he]⟩

/-- What is logged while a quest is checked. -/
def spokenEvents (context : RuleContext) (q : Quest) : List Event :=
  (q.checkEvents context).map (·.inContext (questContext q.id q.source))

theorem checkAtHand_of_reportable (h : q.Reportable context) :
    q.checkAtHand context = ⟨.ok (q.issues context), q.spokenEvents context⟩ := by
  rw [checkAtHand, check_of_reportable h]
  rfl

theorem checkAtHand_of_not_reportable (h : ¬ q.Reportable context) :
    ∃ e, q.checkAtHand context = .quiet (.error e) := by
  obtain ⟨e, he⟩ := check_of_not_reportable h
  exact ⟨e, by rw [checkAtHand, he]; rfl⟩

end Quest

/-! ## Quests one after another -/

/-- **Reportable quests** are all checked. -/
theorem checkEach_of_reportable (h : ∀ q ∈ qs, q.Reportable context) : checkEach context qs =
    ⟨.ok (qs.flatMap fun q => (q.issues context).map (·.inQuest q.id)),
      qs.flatMap fun q => q.spokenEvents context⟩ := by
  induction qs with
  | nil => rfl
  | cons q qs ih =>
    obtain ⟨hq, hqs⟩ := List.forall_mem_cons.1 h
    rw [checkEach, Quest.checkAtHand_of_reportable hq, Logged.andThenOk_of_ok rfl, ih hqs,
      Logged.andThenOk_of_ok rfl]
    simp [Logged.quiet]

/-- **The first quest that is not** ends it, after all that was said about those before. -/
theorem exists_checkEach_of_split {before : List Quest} (after : List Quest)
    (hbefore : ∀ q ∈ before, q.Reportable context) (h : ¬ q.Reportable context) :
    ∃ e, checkEach context (before ++ q :: after) =
      ⟨.error e, before.flatMap fun q => q.spokenEvents context⟩ := by
  induction before with
  | nil =>
    obtain ⟨e, he⟩ := Quest.checkAtHand_of_not_reportable h
    exact ⟨e, by rw [List.nil_append, checkEach, he, Logged.andThenOk_of_error rfl]; rfl⟩
  | cons q' before ih =>
    obtain ⟨hq', hbefore⟩ := List.forall_mem_cons.1 hbefore
    obtain ⟨e, he⟩ := ih hbefore
    refine ⟨e, ?_⟩
    rw [List.cons_append, checkEach, Quest.checkAtHand_of_reportable hq',
      Logged.andThenOk_of_ok rfl, he, Logged.andThenOk_of_error rfl, List.flatMap_cons]

/-! ## All quests -/

variable {catalog : Catalog} {settings : Settings}

/-- **A check of reportable quests** comes to its end. -/
theorem checkAll_of_reportable (h : ∀ q ∈ qs, q.Reportable (settings.ruleContext catalog)) :
    checkAll qs catalog settings =
      ⟨.ok (checkQuests qs catalog settings).value, (checkQuests qs catalog settings).events⟩ := by
  rw [checkAll, checkEach_of_reportable h, Logged.andThenOk_of_ok rfl]
  rfl

/-- **Any other check** breaks off. -/
theorem exists_checkAll_of_split {before : List Quest} (after : List Quest)
    (hbefore : ∀ q ∈ before, q.Reportable (settings.ruleContext catalog))
    (h : ¬ q.Reportable (settings.ruleContext catalog)) :
    ∃ e, checkAll (before ++ q :: after) catalog settings =
      ⟨.error e, before.flatMap fun q => q.spokenEvents (settings.ruleContext catalog)⟩ := by
  obtain ⟨e, he⟩ := exists_checkEach_of_split after hbefore h
  exact ⟨e, by rw [checkAll, he, Logged.andThenOk_of_error rfl]⟩

/-- **A check has a report** just if all of its messages can be written. -/
theorem value_checkAll_eq_ok_iff {r : Report} : (checkAll qs catalog settings).value = .ok r ↔
    (∀ q ∈ qs, q.Reportable (settings.ruleContext catalog)) ∧
      (checkQuests qs catalog settings).value = r := by
  rcases forall_or_first (Quest.Reportable (settings.ruleContext catalog)) qs with
    hall | ⟨before, q, after, rfl, hbefore, hq⟩
  · rw [checkAll_of_reportable hall, Except.ok.injEq]
    exact ⟨fun h => ⟨hall, h⟩, fun h => h.2⟩
  · obtain ⟨e, he⟩ := exists_checkAll_of_split after hbefore hq
    rw [he]
    constructor
    · rintro ⟨⟩
    · exact fun h => absurd (h.1 q (List.mem_append_right _ List.mem_cons_self)) hq

/-- **What it says** is a first part of what it says where it comes to its end. -/
theorem events_checkAll_prefix_checkQuests (qs : List Quest) (catalog : Catalog)
    (settings : Settings) :
    (checkAll qs catalog settings).events <+: (checkQuests qs catalog settings).events := by
  rcases forall_or_first (Quest.Reportable (settings.ruleContext catalog)) qs with
    hall | ⟨before, q, after, rfl, hbefore, hq⟩
  · exact ⟨[], by rw [List.append_nil, checkAll_of_reportable hall]⟩
  · obtain ⟨e, he⟩ := exists_checkAll_of_split after hbefore hq
    have hevents : (checkQuests (before ++ q :: after) catalog settings).events =
        (before ++ q :: after).flatMap (fun q => q.spokenEvents (settings.ruleContext catalog)) ++
          sharedEvents (before ++ q :: after) settings.locales := rfl
    rw [he, hevents, List.flatMap_append, List.append_assoc]
    exact List.prefix_append _ _

/-! ## Lines -/

/-- Whether all lines about issues can be written: no node that one of them is about has an ID with
too many digits. -/
def Issue.Printable (issues : List Issue) : Prop :=
  ∀ i ∈ issues, ∀ n, i.node = some n → IntegerText.isWritable n = true

variable {issues : List Issue}

theorem Issue.writtenLines_eq_ok_iff {lines : List String} :
    writtenLines issues = .ok lines ↔ Printable issues ∧ issues.map (·.line) = lines := by
  rw [writtenLines, IntegerText.naming_eq_ok_iff]
  simp only [List.mem_filterMap, forall_exists_index, and_imp]
  refine and_congr_left fun _ => ⟨fun h i hi n hn => h n i hi hn, ?_⟩
  exact fun h n i hi hn => h i hi n hn

/-- The quest that issues belong to does not matter. -/
theorem Issue.printable_inQuest_iff (id : String) :
    Printable (issues.map (·.inQuest id)) ↔ Printable issues := by
  simp only [Printable, List.forall_mem_map, inQuest]

/-- The lines of a report can be written if those about its issues can. -/
theorem Report.writtenLines_eq_ok_iff {r : Report} {lines : List String} :
    r.writtenLines = .ok lines ↔ Issue.Printable r.issues ∧ r.lines = lines := by
  rw [writtenLines, IntegerText.naming_eq_ok_iff]
  simp only [List.mem_filterMap, forall_exists_index, and_imp]
  refine and_congr_left fun _ => ⟨fun h i hi n hn => h n i hi hn, ?_⟩
  exact fun h n i hi hn => h i hi n hn

end QuestFlow

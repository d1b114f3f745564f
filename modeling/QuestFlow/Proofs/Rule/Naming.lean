import QuestFlow.Proofs.Repository.BreakingOff
import QuestFlow.Proofs.Rule.Edges
import QuestFlow.Proofs.Rule.Own

/-!
# The IDs that messages name

A message about an edge names where the edge leads to, and it cannot be written if that ID has too
many digits.  No other message depends on an ID, so what a check comes to is decided by the edges:
by those that lead nowhere, and by those that stand in their list a second time.

1. **Named IDs** — `Quest.Names` tells them by the nodes alone; they are those in the findings about
   edges (`Quest.names_iff`).
   The problems of the other rules name none (`Rule.target?_eq_none`).
2. **Reports** — so a quest is reportable just if the named IDs can be written
   (`Quest.reportable_iff`), and the rule about edges reports what it has found under the same
   condition (`edgesReported`).
-/

namespace QuestFlow

variable {q : Quest} {context : RuleContext} {n : Node} {f : Finding}

/-! ## Named IDs -/

/-- Whether a message names an ID: an edge leads to it and no node has it, or an edge list has it a
second time. -/
def Quest.Names (q : Quest) (id : Int) : Prop :=
  ∃ n ∈ q.nodes, ∃ field ∈ n.declaredFields, ∃ j : Nat, field.targets[j]? = some id ∧
    ((∀ m ∈ q.nodes, m.id ≠ id) ∨ ∃ i < j, field.targets[i]? = some id)

namespace Findings

/-- A finding about edges is about one place in an edge list. -/
theorem mem_edges_iff : f ∈ edges q ↔ ∃ n ∈ q.nodes, ∃ field ∈ n.declaredFields,
    ∃ (j : Nat) (target : Int), field.targets[j]? = some target ∧
      f.problem ∈ problemsAt q n field (target, j) ∧ f.node = some n.id := by
  rw [edges_eq_flatMap_problemsAt, List.mem_flatMap]
  refine exists_congr fun n => and_congr_right fun _ => ?_
  rw [List.mem_flatMap]
  refine exists_congr fun field => and_congr_right fun _ => ?_
  simp only [List.mem_flatMap, Prod.exists, List.mem_zipIdx_iff_getElem?, List.mem_map]
  rw [exists_comm]
  refine exists₂_congr fun j target => and_congr_right fun _ => ?_
  constructor
  · rintro ⟨p, hp, rfl⟩
    exact ⟨hp, rfl⟩
  · rintro ⟨hp, hnode⟩
    exact ⟨f.problem, hp, by rw [← hnode]⟩

/-- What the problem at a place names is the target there, if it is missing or repeated. -/
theorem exists_problemsAt_names_iff {field : EdgeField} {j : Nat} {target id : Int} :
    (∃ p ∈ problemsAt q n field (target, j), p.target? = some id) ↔ target = id ∧
      ((∀ m ∈ q.nodes, m.id ≠ target) ∨ ∃ i < j, field.targets[i]? = some target) := by
  have hjudged := targetJudged q n field j target
  rw [← hjudged.missing_iff, ← hjudged.repeated_iff]
  constructor
  · rintro ⟨p, hp, hid⟩
    have hlisted := hjudged.order.subset hp
    simp only [List.mem_cons, List.not_mem_nil, or_false] at hlisted
    rcases hlisted with rfl | rfl | rfl
    · exact ⟨Option.some.inj hid, .inl hp⟩
    · cases hid
    · exact ⟨Option.some.inj hid, .inr hp⟩
  · rintro ⟨rfl, hp | hp⟩
    · exact ⟨_, hp, rfl⟩
    · exact ⟨_, hp, rfl⟩

end Findings

/-- **The named IDs** are those in the findings about edges. -/
theorem Quest.names_iff {id : Int} :
    q.Names id ↔ ∃ f ∈ Findings.edges q, f.problem.target? = some id := by
  constructor
  · rintro ⟨n, hn, field, hfield, j, hid, hnamed⟩
    obtain ⟨p, hp, hpid⟩ := (Findings.exists_problemsAt_names_iff (n := n)).2 ⟨rfl, hnamed⟩
    have hfinding : ⟨p, some n.id⟩ ∈ Findings.edges q :=
      Findings.mem_edges_iff.2 ⟨n, hn, field, hfield, j, id, hid, hp, rfl⟩
    exact ⟨_, hfinding, hpid⟩
  · rintro ⟨f, hf, hfid⟩
    obtain ⟨n, hn, field, hfield, j, target, htarget, hp, -⟩ := Findings.mem_edges_iff.1 hf
    obtain ⟨rfl, hnamed⟩ := Findings.exists_problemsAt_names_iff.1 ⟨_, hp, hfid⟩
    exact ⟨n, hn, field, hfield, j, htarget, hnamed⟩

/-- So messages about edges can be written just if the named IDs can. -/
theorem Findings.writable_edges_iff : (∀ f ∈ edges q, f.Writable) ↔
    ∀ id, q.Names id → IntegerText.isWritable id = true := by
  simp only [Quest.names_iff, forall_exists_index, and_imp, Finding.Writable]
  exact ⟨fun h id f hf hid => h f hf id hid, fun h f hf id hid => h id f hf hid⟩

/-- **Only the rule about edges** names an ID. -/
theorem Rule.target?_eq_none {rule : Rule} (hrule : rule ≠ .edges)
    (hf : f ∈ rule.findings context q) : f.problem.target? = none := by
  have hown : f.problem.rule = rule := rule.reportedBy_findings context q f hf
  cases hproblem : f.problem with
  | missingTarget _ _ | repeatedEdge _ _ =>
    rw [hproblem] at hown
    exact absurd hown.symm hrule
  | _ => rfl

/-! ## Reports -/

/-- A finding that names an ID is one about edges, and each of these is among the findings. -/
theorem Quest.exists_mem_findings_iff {id : Int} :
    (∃ f ∈ q.findings context, f.problem.target? = some id) ↔ q.Names id := by
  rw [names_iff]
  constructor
  · rintro ⟨f, hf, hid⟩
    obtain ⟨rule, -, hf⟩ := List.mem_flatMap.1 hf
    by_cases hrule : rule = .edges
    · subst hrule
      exact ⟨f, hf, hid⟩
    · cases (Rule.target?_eq_none hrule hf).symm.trans hid
  · rintro ⟨f, hf, hid⟩
    have hasked : Rule.edges ∈
        Rule.all.filter fun rule => context.journal || !rule.isAboutJournal :=
      List.mem_filter.2 ⟨by decide, by simp [Rule.isAboutJournal]⟩
    exact ⟨f, List.mem_flatMap.2 ⟨.edges, hasked, hf⟩, hid⟩

/-- **A quest is reportable** just if the named IDs can be written. -/
theorem Quest.reportable_iff :
    q.Reportable context ↔ ∀ id, q.Names id → IntegerText.isWritable id = true := by
  have hnames : ∀ id, q.Names id ↔ ∃ f ∈ q.findings context, f.problem.target? = some id :=
    fun id => exists_mem_findings_iff.symm
  simp only [hnames, forall_exists_index, and_imp, Reportable, Finding.Writable]
  exact ⟨fun h id f hf hid => h f hf id hid, fun h f hf id hid => h id f hf hid⟩

namespace Findings

/-- What the rule about edges reports, and when it does. -/
structure EdgesReported (context : RuleContext) (q : Quest) : Prop where
  /-- what it finds, place by place -/
  checked : EdgesChecked q
  /-- it reports just that if the named IDs can be written -/
  reported_iff : ∀ issues, Rule.edges.issues context q = .ok issues ↔
    (∀ id, q.Names id → IntegerText.isWritable id = true) ∧ issues = (edges q).map (·.issue)
  /-- otherwise it reports nothing at all, because of the first that cannot be -/
  brokenOff_iff : ∀ e, Rule.edges.issues context q = .error e ↔ ∃ before f after,
    edges q = before ++ f :: after ∧ (∀ g ∈ before, g.Writable) ∧
      f.problem.target? = some e.number ∧ IntegerText.isWritable e.number = false

/-- **Each edge is judged by its place**, in the order of the document, and reported if all IDs that
the messages name can be written. -/
theorem edgesReported (context : RuleContext) (q : Quest) : EdgesReported context q where
  checked := edgesChecked q
  reported_iff := by
    intro issues
    rw [Rule.issues, Rule.findings, Finding.writtenIssues_eq_ok_iff, writable_edges_iff]
    exact and_congr_right fun _ => eq_comm
  brokenOff_iff := fun e => Finding.writtenIssues_eq_error_iff

/-- A quest with an edge that leads to an ID. -/
def leap (id : Int) : Quest where
  id := "Leap"
  nodes := [⟨1, [], .entryPoint { next := [id] }, []⟩]

/-- **A single edge** that leads nowhere leaves the rule without a report, if the ID has too many
digits. -/
theorem not_reported_leap : ¬ ∀ (context : RuleContext) (q : Quest),
    Rule.edges.issues context q = .ok ((edges q).map (·.issue)) := by
  intro hall
  have hnames : ∀ id, id ≠ 1 → (leap id).Names id := by
    intro id hid
    refine ⟨_, List.mem_cons_self, ⟨.next, [id]⟩, ?_, 0, rfl, .inl ?_⟩
    · exact List.mem_append_left _ List.mem_cons_self
    · simpa [leap] using hid.symm
  have hlong := IntegerText.isWritable_leastUnwritable
  have hother : IntegerText.leastUnwritable ≠ 1 := by
    intro hone
    rw [hone] at hlong
    exact absurd hlong (by decide +kernel)
  have hwritten := Finding.writtenIssues_eq_ok_iff.1
    (hall {} (leap IntegerText.leastUnwritable))
  rw [Rule.findings, writable_edges_iff] at hwritten
  cases (hwritten.1 _ (hnames _ hother)).symm.trans hlong

end Findings
end QuestFlow

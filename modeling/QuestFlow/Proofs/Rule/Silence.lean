import QuestFlow.Proofs.Graph.Colors
import QuestFlow.Proofs.Quest.Graph
import QuestFlow.Rule.Validation

/-!
# What it means that a rule is silent

A rule reports by a list of findings, so a quest keeps the rule exactly when the list is empty.  For
each rule that later results build on, one lemma says what the empty list is worth, in terms of the
nodes alone and without the way in which the rule looks for its findings.

* `uniqueIds_eq_nil_iff`, `edges_eq_nil_iff` — no two nodes share an ID; each declared edge leads to
  another node that exists, and no edge list has a target twice;
* `endings_eq_nil_iff` — an actions node either ends the flow once or goes on;
* `acyclic_eq_nil_iff` — nothing leads back to itself (from the exactness of the search);
  `cyclesFound` says the same of the report, together with what the search finds in any table;
* `referenced_eq_nil_iff` — every node but an entry point is led to.

`Quest.issues_eq_nil_iff` splits a clean report into its rules.
-/

namespace QuestFlow

variable {q : Quest} {context : RuleContext}

/-- A quest has no issue exactly when every rule that is asked is silent. -/
theorem Quest.issues_eq_nil_iff :
    q.issues context = [] ↔ ∀ rule : Rule,
      (context.journal || !rule.isAboutJournal) = true → rule.findings context q = [] := by
  rw [Quest.issues, List.map_eq_nil_iff, Quest.findings, List.flatMap_eq_nil_iff]
  have hall : ∀ rule : Rule, rule ∈ Rule.all := by
    intro rule
    cases rule <;> decide
  constructor
  · intro h rule hasked
    exact h rule (List.mem_filter.2 ⟨hall rule, hasked⟩)
  · intro h rule hmem
    exact h rule (List.mem_filter.1 hmem).2

/-- A rule that is not about the journal is always asked. -/
theorem Quest.findings_eq_nil_of_issues (hclean : q.issues context = []) (rule : Rule)
    (hrule : rule.isAboutJournal = false) : rule.findings context q = [] :=
  Quest.issues_eq_nil_iff.1 hclean rule (by simp [hrule])

@[simp] theorem Node.findIf_eq_nil_iff {n : Node} {wrong : Bool} {p : Problem} :
    n.findIf wrong p = [] ↔ wrong = false := by
  cases wrong <;> simp [Node.findIf]

namespace Findings

/-! ## Repeated members -/

/-- No member is flagged exactly when the list repeats neither itself nor what came before. -/
theorem repeats_fresh_iff {α : Type} [DecidableEq α] {seen xs : List α} :
    (∀ p ∈ repeats seen xs, p.2 = false) ↔ xs.Nodup ∧ ∀ x ∈ xs, x ∉ seen := by
  induction xs generalizing seen with
  | nil => simp [repeats]
  | cons x xs ih =>
    rw [repeats, List.forall_mem_cons, ih]
    constructor
    · rintro ⟨hx, hnodup, hfresh⟩
      have hx : x ∉ seen := by simpa using hx
      refine ⟨List.nodup_cons.2 ⟨fun hmem => hfresh x hmem List.mem_cons_self, hnodup⟩, ?_⟩
      refine List.forall_mem_cons.2 ⟨hx, fun y hy hseen => ?_⟩
      exact hfresh y hy (List.mem_cons_of_mem _ hseen)
    · rintro ⟨hnodup, hfresh⟩
      obtain ⟨hx, hnodup⟩ := List.nodup_cons.1 hnodup
      obtain ⟨hhead, htail⟩ := List.forall_mem_cons.1 hfresh
      refine ⟨by simpa using hhead, hnodup, fun y hy hseen => ?_⟩
      rcases List.mem_cons.1 hseen with rfl | hseen
      · exact hx hy
      · exact htail y hy hseen

/-- Flagging members neither adds nor drops any. -/
theorem map_repeats {α : Type} [DecidableEq α] (seen xs : List α) :
    (repeats seen xs).map (·.1) = xs := by
  induction xs generalizing seen with
  | nil => rfl
  | cons x xs ih => rw [repeats, List.map_cons, ih]

theorem uniqueIds_eq_nil_iff : uniqueIds q = [] ↔ q.nodeIds.Nodup := by
  have hflags : uniqueIds q = [] ↔ ∀ p ∈ repeats [] q.nodeIds, p.2 = false := by
    rw [uniqueIds, List.filterMap_eq_nil_iff]
    simp
  rw [hflags, repeats_fresh_iff]
  simp

/-! ## Edges -/

theorem targetProblems_eq_nil_iff {known : List Int} {id target : Int} {label : EdgeLabel}
    {again : Bool} :
    targetProblems known id label target again = [] ↔
      target ∈ known ∧ target ≠ id ∧ again = false := by
  simp only [targetProblems, List.append_eq_nil_iff, ite_eq_left_iff, ite_eq_right_iff,
    List.cons_ne_nil, imp_false, not_not, Bool.not_eq_true, and_assoc]

/-- Each edge of a declared list leads to another node that exists, and no list repeats a target. -/
theorem edges_eq_nil_iff :
    edges q = [] ↔ ∀ n ∈ q.nodes, ∀ field ∈ n.declaredFields,
      field.targets.Nodup ∧ ∀ target ∈ field.targets, target ∈ q.nodeIds ∧ target ≠ n.id := by
  simp only [edges, List.flatMap_eq_nil_iff, List.map_eq_nil_iff, targetProblems_eq_nil_iff]
  refine forall₄_congr fun n _ field _ => ?_
  have hnodup : (∀ p ∈ repeats [] field.targets, p.2 = false) ↔ field.targets.Nodup := by
    rw [repeats_fresh_iff]
    simp
  rw [← hnodup]
  constructor
  · intro h
    refine ⟨fun p hp => (h p hp).2.2, fun target htarget => ?_⟩
    rw [← map_repeats [] field.targets] at htarget
    obtain ⟨p, hp, rfl⟩ := List.mem_map.1 htarget
    exact ⟨(h p hp).1, (h p hp).2.1⟩
  · rintro ⟨hfresh, hleads⟩ p hp
    have htarget : p.1 ∈ field.targets := by
      rw [← map_repeats [] field.targets]
      exact List.mem_map.2 ⟨p, hp, rfl⟩
    exact ⟨(hleads p.1 htarget).1, (hleads p.1 htarget).2, hfresh p hp⟩

/-- A legal edge is a declared one, so it leads to a node. -/
theorem target_mem_of_edges (hedges : edges q = []) {a b : Int} (hedge : q.LeadsTo a b) :
    b ∈ q.nodeIds := by
  obtain ⟨n, hmem, _, hb⟩ := hedge
  obtain ⟨field, hfield, htarget⟩ := List.mem_flatMap.1 hb
  have hdeclared : field ∈ n.declaredFields := List.mem_append_left _ hfield
  exact ((edges_eq_nil_iff.1 hedges n hmem field hdeclared).2 b htarget).1

/-! ## Endings -/

/-- An actions node with an ending goes nowhere, one without goes on, and none ends twice. -/
theorem endings_eq_nil_iff :
    endings q = [] ↔ ∀ n ∈ q.nodes, n.isActions = true →
      (n.isTerminal = true → n.outgoing = []) ∧ (n.isTerminal = false → n.outgoing ≠ []) ∧
        n.endings.length ≤ 1 := by
  rw [endings, List.flatMap_eq_nil_iff]
  refine forall₂_congr fun n _ => ?_
  cases hactions : n.isActions with
  | false => simp
  | true =>
    cases n.isTerminal <;> cases n.outgoing <;> simp

/-! ## The graph -/

/-- No walk comes back.  Only an ID with an edge can be on a cycle, and such an ID is one of the
roots that the search starts from. -/
theorem acyclic_eq_nil_iff : acyclic q = [] ↔ ∀ a, ¬ q.graph.OnCycle a := by
  have hfound : acyclic q = [] ↔ ¬ q.graph.hasCycle q.nodeIds = true := by
    rw [acyclic]
    split <;> simp_all
  rw [hfound, Adjacency.hasCycle_iff]
  constructor
  · intro hnone a hcycle
    have hroot : a ∈ q.nodeIds := by
      obtain ⟨b, hedge, _⟩ := hcycle
      exact (Quest.edge_graph_iff.1 hedge).source_mem
    exact hnone ⟨a, hroot, a, .refl _ a, hcycle⟩
  · rintro hnone ⟨_, _, a, _, hcycle⟩
    exact hnone a hcycle

/-- Where each edge leads to a greater ID, nothing leads back. -/
theorem acyclic_eq_nil_of_upward (hup : ∀ n ∈ q.nodes, ∀ target ∈ n.outgoing, n.id < target) :
    acyclic q = [] := by
  have hedge : ∀ a b, q.graph.Edge a b → a < b := by
    intro a b hab
    obtain ⟨n, hmem, rfl, htarget⟩ := Quest.edge_graph_iff.1 hab
    exact hup n hmem b htarget
  rw [acyclic_eq_nil_iff]
  intro a hcycle
  have hself : Relation.TransGen (· < ·) a a :=
    Relation.TransGen.mono hedge a a (Adjacency.onCycle_iff.1 hcycle)
  rw [Relation.transGen_eq_self] at hself
  exact lt_irrefl a hself

/-- There is one report, or none. -/
theorem acyclic_ne_nil_iff : acyclic q ≠ [] ↔ acyclic q = [⟨.cycle, none⟩] := by
  rw [acyclic]
  split <;> simp

/-- What is promised of cycles: by the search, for any table and any IDs to start from, and by the
rule, for any quest. -/
structure CyclesFound (g : Adjacency) (roots : List Int) (q : Quest) : Prop where
  /-- a cycle is found exactly when one of the IDs leads to a cycle, or is on one -/
  found_iff : g.hasCycle roots = true ↔ ∃ root ∈ roots, ∃ a, g.Reaches root a ∧ g.OnCycle a
  /-- it does not matter whether the search looks at its stack or at the colors of the IDs -/
  colors : (g.backEdge? roots).isSome = g.hasCycle roots
  /-- the rule reports once where the legal edges of the nodes lead from an ID back to it -/
  reported_iff : acyclic q = [⟨.cycle, none⟩] ↔ ∃ a, Relation.TransGen q.LeadsTo a a
  /-- and is silent otherwise -/
  silent_iff : acyclic q = [] ↔ ∀ a, ¬ Relation.TransGen q.LeadsTo a a

/-- **Cycles are found**, wherever the search starts, and reported. -/
theorem cyclesFound (g : Adjacency) (roots : List Int) (q : Quest) : CyclesFound g roots q := by
  have hsilent : acyclic q = [] ↔ ∀ a, ¬ Relation.TransGen q.LeadsTo a a := by
    rw [acyclic_eq_nil_iff, ← Quest.edge_graph]
    exact forall_congr' fun a => not_congr Adjacency.onCycle_iff
  refine ⟨Adjacency.hasCycle_iff, ?_, ?_, hsilent⟩
  · rw [Adjacency.backEdge?_eq, Adjacency.hasCycle]
  · rw [← acyclic_ne_nil_iff, Ne, hsilent, not_forall_not]

/-- Every node but an entry point is the target of a legal edge. -/
theorem referenced_eq_nil_iff :
    referenced q = [] ↔
      ∀ n ∈ q.nodes, n.isEntryPoint = false → ∃ a, q.LeadsTo a n.id := by
  rw [referenced, List.flatMap_eq_nil_iff]
  refine forall₂_congr fun n _ => ?_
  rw [Node.findIf_eq_nil_iff, ← Quest.mem_targets_graph]
  cases n.isEntryPoint <;> simp

end Findings
end QuestFlow

import Mathlib.Data.List.Perm.Basic
import QuestFlow.Proofs.Graph.Layers
import QuestFlow.Proofs.Rule.Silence

/-!
# The order of the nodes does not matter

A document lists its nodes one after another, but a quest is a graph, and where the nodes have
distinct IDs no rule minds their order: `issues_perm` says that a reordered quest has the same
issues, each as often, whatever the context.

1. **Rules that look at one node at a time** report the same for each node, so their findings are
   reordered with the nodes (`flatMap_nodes_perm`).
2. **Rules that ask whether an ID is among some IDs** see the same sets (`nodeIds_perm`,
   `leadsTo_of_perm`).
3. **Rules that search** are where it could go wrong, since a search meets the nodes in the order of
   the document.  The search for a cycle is exact, so its verdict is one about the edges.  The
   search forward from an entry point reads rows of the graph, which are the same.  The search
   backward from an ending does meet its nodes in another order, but is only asked whether some
   node it meets writes into the journal.

Distinct IDs are needed: of two nodes with the same ID the second is reported, and the first is
the one that an edge leads to.
-/

namespace QuestFlow

open Relation

variable {q q' : Quest}

namespace Quest

theorem nodeIds_perm (hperm : q'.nodes.Perm q.nodes) : q'.nodeIds.Perm q.nodeIds :=
  hperm.map Node.id

theorem leadsTo_of_perm (hperm : q'.nodes.Perm q.nodes) (a b : Int) :
    q'.LeadsTo a b ↔ q.LeadsTo a b := by
  constructor
  · rintro ⟨n, hmem, hedge⟩
    exact ⟨n, hperm.mem_iff.1 hmem, hedge⟩
  · rintro ⟨n, hmem, hedge⟩
    exact ⟨n, hperm.mem_iff.2 hmem, hedge⟩

/-- The edges are the same, so the same IDs are on a cycle. -/
theorem onCycle_graph_of_perm (hperm : q'.nodes.Perm q.nodes) (a : Int) :
    q'.graph.OnCycle a ↔ q.graph.OnCycle a := by
  have hedges : q'.LeadsTo = q.LeadsTo := by
    funext a b
    exact propext (leadsTo_of_perm hperm a b)
  rw [Adjacency.onCycle_iff, Adjacency.onCycle_iff, edge_graph, edge_graph, hedges]

end Quest

namespace Findings

open Quest

/-- What is found at each node by itself is reordered with the nodes. -/
theorem flatMap_nodes_perm (hperm : q'.nodes.Perm q.nodes) {f f' : Node → List Finding}
    (hsame : ∀ n ∈ q.nodes, f' n = f n) : (q'.nodes.flatMap f').Perm (q.nodes.flatMap f) := by
  have hfound : (q'.nodes.flatMap f').Perm (q.nodes.flatMap f') := hperm.flatMap_right f'
  rwa [List.flatMap_congr hsame] at hfound

/-! ## Rules about the structure -/

theorem uniqueIds_perm (hperm : q'.nodes.Perm q.nodes) (hdistinct : q.nodeIds.Nodup) :
    (uniqueIds q').Perm (uniqueIds q) := by
  have hdistinct' : q'.nodeIds.Nodup := (nodeIds_perm hperm).nodup_iff.2 hdistinct
  rw [uniqueIds_eq_nil_iff.2 hdistinct, uniqueIds_eq_nil_iff.2 hdistinct']

theorem edges_perm (hperm : q'.nodes.Perm q.nodes) : (edges q').Perm (edges q) := by
  refine flatMap_nodes_perm hperm fun n _ => ?_
  simp only [targetProblems, (nodeIds_perm hperm).mem_iff]

theorem incoming_perm (hperm : q'.nodes.Perm q.nodes) : (incoming q').Perm (incoming q) := by
  have hled : ∀ id, (q'.nodes.flatMap (·.declaredTargets)).contains id =
      (q.nodes.flatMap (·.declaredTargets)).contains id := fun id =>
    (hperm.flatMap_right _).contains_eq
  refine flatMap_nodes_perm hperm fun n _ => ?_
  rw [hled]

theorem entryPoint_perm (hperm : q'.nodes.Perm q.nodes) : entryPoint q' = entryPoint q := by
  have hstarts : q'.entryPoints.Perm q.entryPoints := hperm.filter _
  rw [entryPoint, entryPoint, hstarts.isEmpty_eq]

theorem acyclic_perm (hperm : q'.nodes.Perm q.nodes) : acyclic q' = acyclic q := by
  have hverdict : acyclic q' = [] ↔ acyclic q = [] := by
    simp only [acyclic_eq_nil_iff, onCycle_graph_of_perm hperm]
  -- a rule with at most one finding is told by whether it is silent
  unfold acyclic at hverdict ⊢
  split at hverdict <;> split at hverdict <;> simp_all

theorem referenced_perm (hperm : q'.nodes.Perm q.nodes) : (referenced q').Perm (referenced q) := by
  have hled : ∀ id, q'.graph.targets.contains id = q.graph.targets.contains id := by
    intro id
    rw [Bool.eq_iff_iff, List.contains_iff_mem, List.contains_iff_mem, mem_targets_graph,
      mem_targets_graph]
    exact exists_congr fun a => leadsTo_of_perm hperm a id
  refine flatMap_nodes_perm hperm fun n _ => ?_
  rw [hled]

/-! ## Rules about the journal -/

/-- The search from an entry point meets the same nodes in the same order. -/
theorem nearest?_of_perm (hperm : q'.nodes.Perm q.nodes) (hdistinct : q.nodeIds.Nodup)
    (wanted : Node → Bool) (start : List Int) :
    q'.graph.nearest? q'.node? wanted start = q.graph.nearest? q.node? wanted start := by
  rw [Adjacency.nearest?, Adjacency.nearest?, node?_eq_of_perm hperm hdistinct,
    Adjacency.explore_congr (successors_graph_eq_of_perm hperm hdistinct)]

theorem journalAtStart_perm (hperm : q'.nodes.Perm q.nodes) (hdistinct : q.nodeIds.Nodup) :
    (journalAtStart q').Perm (journalAtStart q) := by
  have hstarts : q'.entryPoints.Perm q.entryPoints := hperm.filter _
  simp only [journalAtStart, nearest?_of_perm hperm hdistinct]
  exact hstarts.flatMap_right _

/-- The search backwards from a node meets the same nodes, perhaps in another order. -/
theorem any_leadingTo_of_perm (hperm : q'.nodes.Perm q.nodes) (hdistinct : q.nodeIds.Nodup)
    {n : Node} (hmem : n ∈ q.nodes) (admitted test : Node → Bool) :
    (q'.graph.predecessors.leadingTo q'.node? admitted n).any test =
      (q.graph.predecessors.leadingTo q.node? admitted n).any test := by
  have hself : q.node? n.id = some n := (node?_eq_some_iff hdistinct).2 ⟨hmem, rfl⟩
  have hedges : ∀ enter, q'.graph.predecessors.EdgeInto enter =
      q.graph.predecessors.EdgeInto enter := by
    intro enter
    funext b a
    rw [Adjacency.EdgeInto, Adjacency.EdgeInto, edge_predecessors_graph, edge_predecessors_graph,
      leadsTo_of_perm hperm]
  rw [node?_eq_of_perm hperm hdistinct, Bool.eq_iff_iff, Adjacency.any_leadingTo_iff hself,
    Adjacency.any_leadingTo_iff hself, hedges]

theorem journalAtEnd_perm (hperm : q'.nodes.Perm q.nodes) (hdistinct : q.nodeIds.Nodup) :
    (journalAtEnd q').Perm (journalAtEnd q) := by
  refine flatMap_nodes_perm hperm fun n hmem => ?_
  rw [any_leadingTo_of_perm hperm hdistinct hmem]

end Findings

/-! ## All rules -/

/-- Each rule finds the same in a reordered quest. -/
theorem Rule.findings_perm (context : RuleContext) (hperm : q'.nodes.Perm q.nodes)
    (hdistinct : q.nodeIds.Nodup) (rule : Rule) :
    (rule.findings context q').Perm (rule.findings context q) := by
  cases rule with
  | uniqueIds => exact Findings.uniqueIds_perm hperm hdistinct
  | edges => exact Findings.edges_perm hperm
  | incoming => exact Findings.incoming_perm hperm
  | entryPoint => exact .of_eq (Findings.entryPoint_perm hperm)
  | acyclic => exact .of_eq (Findings.acyclic_perm hperm)
  | journalAtStart => exact Findings.journalAtStart_perm hperm hdistinct
  | journalAtEnd => exact Findings.journalAtEnd_perm hperm hdistinct
  | referenced => exact Findings.referenced_perm hperm
  | endings | decisions | conditionBranches | flatNodes | references => exact hperm.flatMap_right _

/-- **The order of the nodes changes no report**: a quest with distinct IDs whose nodes are listed
in another order has the same issues, each as often, in every context. -/
theorem Quest.issues_perm (context : RuleContext) (hperm : q'.nodes.Perm q.nodes)
    (hdistinct : q.nodeIds.Nodup) : (q'.issues context).Perm (q.issues context) := by
  refine List.Perm.map _ (List.Perm.flatMap_left _ fun rule _ => ?_)
  exact rule.findings_perm context hperm hdistinct

/-- A quest with a loop, an edge to nowhere, an ending without a journal and two ways back from it.
-/
def tangle : Quest where
  id := "Tangle"
  nodes := [
    ⟨1, [], .entryPoint { next := [2, 3, 9] }, []⟩,
    ⟨2, [], .actions { next := [4] } [], []⟩,
    ⟨3, [], .actions { next := [4, 3] } [], []⟩,
    ⟨4, [], .actions {} [.ofValue (.text "DeclineQuest")], []⟩]

/-- Read from its end, the tangle has the same issues. -/
theorem issues_reverse_tangle :
    tangle.nodeIds.Nodup ∧ tangle.nodes.reverse.Perm tangle.nodes ∧
      ({ tangle with nodes := tangle.nodes.reverse }.issues {}).Perm (tangle.issues {}) := by
  have hdistinct : tangle.nodeIds.Nodup := by decide
  have hperm : { tangle with nodes := tangle.nodes.reverse }.nodes.Perm tangle.nodes :=
    List.reverse_perm _
  exact ⟨hdistinct, hperm, Quest.issues_perm {} hperm hdistinct⟩

end QuestFlow

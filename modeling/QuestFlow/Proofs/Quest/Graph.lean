import Mathlib.Data.List.Basic
import QuestFlow.Proofs.Graph.Rows
import QuestFlow.Proofs.Graph.Walk

/-!
# The graph of a quest and its nodes

The rules walk through `Quest.graph`, a table from ID to IDs.  What a flow does is said by the
nodes: `Quest.LeadsTo` is an edge as some node lists it in a legal edge list.  The two agree for
every quest (`edge_graph_iff`), also where nodes share an ID or an edge leads nowhere.

Where no two nodes share an ID, an ID is as good as its node: `node?` finds it wherever it stands
(`node?_eq_some_iff`), and listing the nodes in another order changes neither what is found nor
any row of the graph (`node?_eq_of_perm`, `successors_graph_eq_of_perm`).
-/

namespace QuestFlow.Quest

variable {q q' : Quest} {a b id : Int}

/-- A node with the first ID has a legal edge to the second. -/
def LeadsTo (q : Quest) (a b : Int) : Prop := ∃ n ∈ q.nodes, n.id = a ∧ b ∈ n.outgoing

/-! ## The table holds the edges of the nodes -/

theorem successors_graph (q : Quest) (a : Int) :
    q.graph.successors a = (q.nodes.filter (·.id == a)).flatMap (·.outgoing) := by
  rw [Adjacency.successors, graph, Groups.get_collect, List.flatMap_map]
  induction q.nodes with
  | nil => rfl
  | cons n nodes ih =>
    by_cases hid : n.id = a
    · simp [hid, ih]
    · simp [hid, ih]

theorem nodup_keys_graph (q : Quest) : (Groups.keys q.graph).Nodup :=
  Groups.nodup_keys_collect _

/-- **The graph is that of the nodes.** -/
theorem edge_graph_iff : q.graph.Edge a b ↔ q.LeadsTo a b := by
  rw [Adjacency.Edge, successors_graph, List.mem_flatMap]
  constructor
  · rintro ⟨n, hn, hb⟩
    obtain ⟨hmem, hid⟩ := List.mem_filter.1 hn
    exact ⟨n, hmem, by simpa using hid, hb⟩
  · rintro ⟨n, hmem, hid, hb⟩
    exact ⟨n, List.mem_filter.2 ⟨hmem, by simpa using hid⟩, hb⟩

theorem edge_graph (q : Quest) : q.graph.Edge = q.LeadsTo := by
  funext a b
  exact propext edge_graph_iff

theorem mem_targets_graph : b ∈ q.graph.targets ↔ ∃ a, q.LeadsTo a b := by
  rw [Adjacency.mem_targets_iff q.nodup_keys_graph, edge_graph]

theorem edge_predecessors_graph : q.graph.predecessors.Edge b a ↔ q.LeadsTo a b := by
  rw [Adjacency.edge_predecessors_iff q.nodup_keys_graph, edge_graph_iff]

theorem mem_nodeIds : id ∈ q.nodeIds ↔ ∃ n ∈ q.nodes, n.id = id := List.mem_map

/-- An edge starts at a node. -/
theorem LeadsTo.source_mem (hedge : q.LeadsTo a b) : a ∈ q.nodeIds := by
  obtain ⟨n, hmem, hid, _⟩ := hedge
  exact mem_nodeIds.2 ⟨n, hmem, hid⟩

/-- Where no two nodes share an ID, an ID leads where its node does. -/
theorem leadsTo_iff_of_mem (hdistinct : q.nodeIds.Nodup) {n : Node} (hmem : n ∈ q.nodes) :
    q.LeadsTo n.id b ↔ b ∈ n.outgoing := by
  constructor
  · rintro ⟨m, hm, hid, hb⟩
    have heq : m = n := List.inj_on_of_nodup_map hdistinct hm hmem hid
    exact heq ▸ hb
  · intro hb
    exact ⟨n, hmem, rfl, hb⟩

/-! ## Nodes by their ID -/

theorem node?_eq_head? (q : Quest) (id : Int) :
    q.node? id = (q.nodes.filter (·.id == id)).head? := by
  rw [node?, List.head?_filter]

/-- Looking up an ID gives a node with it. -/
theorem id_of_node? {n : Node} (hfind : q.node? id = some n) : n.id = id := by
  simpa using List.find?_some hfind

theorem node?_eq_some_iff (hdistinct : q.nodeIds.Nodup) {n : Node} :
    q.node? id = some n ↔ n ∈ q.nodes ∧ n.id = id := by
  constructor
  · intro hfind
    exact ⟨List.mem_of_find?_eq_some hfind, id_of_node? hfind⟩
  · rintro ⟨hmem, hid⟩
    cases hfind : q.node? id with
    | none => simpa [hid] using List.find?_eq_none.1 hfind n hmem
    | some m =>
      have hm : m ∈ q.nodes := List.mem_of_find?_eq_some hfind
      rw [List.inj_on_of_nodup_map hdistinct hm hmem ((id_of_node? hfind).trans hid.symm)]

/-! ## Another order of the nodes -/

/-- At most one node has a given ID, so the nodes with it are the same list in every order. -/
theorem filter_id_eq_of_perm (hperm : q'.nodes.Perm q.nodes) (hdistinct : q.nodeIds.Nodup)
    (id : Int) : q'.nodes.filter (·.id == id) = q.nodes.filter (·.id == id) := by
  have hsub := hperm.filter (·.id == id)
  have hone : (q.nodes.filter (·.id == id)).length ≤ 1 := by
    have hcount := List.nodup_iff_count_le_one.1 hdistinct id
    rwa [nodeIds, List.count, List.countP_map, List.countP_eq_length_filter] at hcount
  rcases Nat.le_one_iff_eq_zero_or_eq_one.1 hone with hzero | hone
  · rw [List.length_eq_zero_iff.1 hzero] at hsub ⊢
    exact hsub.eq_nil
  · obtain ⟨n, hn⟩ := List.length_eq_one_iff.1 hone
    rw [hn] at hsub ⊢
    exact hsub.eq_singleton

theorem successors_graph_eq_of_perm (hperm : q'.nodes.Perm q.nodes) (hdistinct : q.nodeIds.Nodup)
    (a : Int) : q'.graph.successors a = q.graph.successors a := by
  rw [successors_graph, successors_graph, filter_id_eq_of_perm hperm hdistinct]

theorem node?_eq_of_perm (hperm : q'.nodes.Perm q.nodes) (hdistinct : q.nodeIds.Nodup) :
    q'.node? = q.node? := by
  funext id
  rw [node?_eq_head?, node?_eq_head?, filter_id_eq_of_perm hperm hdistinct]

end QuestFlow.Quest

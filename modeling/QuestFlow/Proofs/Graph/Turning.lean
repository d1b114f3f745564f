import Mathlib.Algebra.Ring.Nat
import QuestFlow.Proofs.Quest.Graph

/-!
# Edges turned around

The search backwards goes through a table that is made from the table of edges by turning each edge
around.  It finds what it should only if no edge gets lost on the way, none is made up, and none is
put under an ID that is not its own; and a node may list the same edge twice.

1. **The edges of a table** — `edges` lists them with repeats.  Where no ID has two rows, an edge is
   in it as often as in the row of its source (`count_edges`).
2. **Gathering by target** — turning around enters edge after edge under its target.  What is
   gathered under an ID is what has been entered under it (`Groups.get_collect`), and so the source
   of an edge is entered as often as the edge is there (`count_predecessors`).
3. **There and back** — the turned table has the edges of the first one with their ends swapped
   (`edges_predecessors_perm`).  Turning twice swaps twice (`count_predecessors_predecessors`).
4. **The table of a quest** has one row for each node ID, which is that of all nodes with the ID,
   one after another (`Quest.mem_graph_iff`).
-/

namespace QuestFlow

namespace Adjacency

variable {g : Adjacency} {s t : Int}

/-! ## The edges of a table -/

/-- All edges, each with its source and its target, as often as the rows list them. -/
def edges (g : Adjacency) : List (Int × Int) :=
  g.flatMap fun (source, targets) => targets.map fun target => (source, target)

theorem edges_cons (source : Int) (targets : List Int) (g : Adjacency) :
    edges ((source, targets) :: g) = targets.map (fun target => (source, target)) ++ edges g := rfl

/-- A row has no edge of another source. -/
theorem count_row (source : Int) (targets : List Int) (s t : Int) :
    (targets.map fun target => (source, target)).count (s, t) =
      if source = s then targets.count t else 0 := by
  split
  · rename_i hsource
    subst hsource
    have hinj : Function.Injective fun target : Int => (source, target) :=
      fun _ _ heq => (Prod.mk.inj heq).2
    exact List.count_map_of_injective targets _ hinj t
  · rename_i hsource
    refine List.count_eq_zero.2 fun hmem => ?_
    obtain ⟨target, -, heq⟩ := List.mem_map.1 hmem
    exact hsource (Prod.mk.inj heq).1

/-- Only an ID with a row has edges. -/
theorem count_edges_of_notMem (hkey : s ∉ Groups.keys g) : g.edges.count (s, t) = 0 := by
  refine List.count_eq_zero.2 fun hmem => ?_
  obtain ⟨⟨source, targets⟩, hrow, hedge⟩ := List.mem_flatMap.1 hmem
  obtain ⟨target, -, heq⟩ := List.mem_map.1 hedge
  obtain rfl : source = s := (Prod.mk.inj heq).1
  exact hkey (List.mem_map.2 ⟨_, hrow, rfl⟩)

/-- **An edge is there** as often as the row of its source lists its target. -/
theorem count_edges (hnodup : (Groups.keys g).Nodup) (s t : Int) :
    g.edges.count (s, t) = (g.successors s).count t := by
  induction g with
  | nil => rfl
  | cons row g ih =>
    obtain ⟨source, targets⟩ := row
    obtain ⟨hfresh, hnodup⟩ := List.nodup_cons.1 hnodup
    have hrow : successors ((source, targets) :: g) s =
        if source = s then targets else successors g s := Groups.get_cons source s targets g
    rw [edges_cons, List.count_append, count_row, hrow]
    by_cases hsource : source = s
    · subst hsource
      -- the rows behind are those of other IDs
      have hothers : (edges g).count (source, t) = 0 := count_edges_of_notMem hfresh
      rw [if_pos rfl, if_pos rfl, hothers, Nat.add_zero]
    · rw [if_neg hsource, if_neg hsource, ih hnodup, Nat.zero_add]

/-- The IDs that are led to are the targets of the edges. -/
theorem map_snd_edges (g : Adjacency) : g.edges.map (·.2) = g.targets := by
  rw [edges, targets, List.map_flatMap]
  refine List.flatMap_congr fun row _ => ?_
  rw [List.map_map]
  exact List.map_id row.2

/-! ## Gathering by target -/

/-- Turning around enters edge after edge under its target. -/
theorem predecessors_eq_collect (g : Adjacency) :
    g.predecessors = Groups.collect (g.edges.map fun e => (e.2, [e.1])) := by
  rw [predecessors, edges, List.map_flatMap]
  simp only [List.map_map]
  rfl

/-- What is entered under a target: the sources of the edges to it, with repeats. -/
theorem count_entered (es : List (Int × Int)) (s t : Int) :
    (es.flatMap fun e => if e.2 = t then [e.1] else []).count s = es.count (s, t) := by
  induction es with
  | nil => rfl
  | cons e es ih =>
    obtain ⟨source, target⟩ := e
    have hfirst : (if target = t then [source] else []).count s =
        if (source, target) = (s, t) then 1 else 0 := by
      by_cases htarget : target = t
      · by_cases hsource : source = s <;> simp [htarget, hsource]
      · simp [htarget]
    rw [List.flatMap_cons, List.count_append, ih, hfirst, List.count_cons, Nat.add_comm]
    simp only [beq_iff_eq]

theorem count_successors_predecessors (g : Adjacency) (s t : Int) :
    (g.predecessors.successors t).count s = g.edges.count (s, t) := by
  have hrow : g.predecessors.successors t =
      g.edges.flatMap fun e => if e.2 = t then [e.1] else [] := by
    rw [predecessors_eq_collect, successors, Groups.get_collect, List.flatMap_map]
  rw [hrow, count_entered]

/-- **No edge is lost and none is made up**: a source is listed under a target as often as the
target under the source. -/
theorem count_predecessors (hnodup : (Groups.keys g).Nodup) (s t : Int) :
    (g.predecessors.successors t).count s = (g.successors s).count t := by
  rw [count_successors_predecessors, count_edges hnodup]

theorem mem_keys_predecessors_iff : t ∈ Groups.keys g.predecessors ↔ t ∈ g.targets := by
  rw [predecessors_eq_collect, Groups.mem_keys_collect, List.map_map, ← map_snd_edges]
  rfl

theorem nodup_keys_predecessors (g : Adjacency) : (Groups.keys g.predecessors).Nodup :=
  Groups.nodup_keys_collect _

/-! ## There and back -/

/-- The edges of the turned table are those of the first one, with their ends swapped. -/
theorem edges_predecessors_perm (g : Adjacency) :
    g.predecessors.edges.Perm (g.edges.map Prod.swap) := by
  rw [List.perm_iff_count]
  rintro ⟨t, s⟩
  have hswap : (g.edges.map Prod.swap).count (t, s) = g.edges.count (s, t) :=
    List.count_map_of_injective g.edges Prod.swap Prod.swap_injective (s, t)
  rw [hswap, count_edges g.nodup_keys_predecessors, count_successors_predecessors]

/-- **Turning twice** gives back every edge, as often as it was there. -/
theorem count_predecessors_predecessors (hnodup : (Groups.keys g).Nodup) (s t : Int) :
    (g.predecessors.predecessors.successors s).count t = (g.successors s).count t := by
  have hperm : (g.predecessors.edges.map Prod.swap).Perm g.edges := by
    have hback := g.edges_predecessors_perm.map Prod.swap
    rwa [List.map_map, Prod.swap_swap_eq, List.map_id] at hback
  have hswap : (g.predecessors.edges.map Prod.swap).count (s, t) =
      g.predecessors.edges.count (t, s) :=
    List.count_map_of_injective g.predecessors.edges Prod.swap Prod.swap_injective (t, s)
  rw [count_successors_predecessors, ← hswap, hperm.count_eq, count_edges hnodup]

/-- What turning a table around does to its edges. -/
structure Turned (g : Adjacency) : Prop where
  count : ∀ s t, (g.predecessors.successors t).count s = (g.successors s).count t
  /-- there is a row for each ID that is led to, and only one -/
  keys : ∀ t, t ∈ Groups.keys g.predecessors ↔ ∃ s, t ∈ g.successors s
  nodup : (Groups.keys g.predecessors).Nodup
  twice : ∀ s t, (g.predecessors.predecessors.successors s).count t = (g.successors s).count t

theorem turned (hnodup : (Groups.keys g).Nodup) : Turned g where
  count := count_predecessors hnodup
  keys := fun t => by
    rw [mem_keys_predecessors_iff, mem_targets_iff hnodup]
    rfl
  nodup := g.nodup_keys_predecessors
  twice := count_predecessors_predecessors hnodup

end Adjacency

namespace Quest

/-! ## The table of a quest -/

/-- The targets that the nodes with an ID list, one node after another. -/
def listedBy (q : Quest) (id : Int) : List Int :=
  (q.nodes.filter (·.id == id)).flatMap (·.outgoing)

theorem mem_keys_graph_iff (q : Quest) (id : Int) : id ∈ Groups.keys q.graph ↔ id ∈ q.nodeIds := by
  rw [graph, Groups.mem_keys_collect, List.map_map]
  rfl

/-- **Each node ID has its row**, and there is no other. -/
theorem mem_graph_iff (q : Quest) (id : Int) (targets : List Int) :
    (id, targets) ∈ q.graph ↔ id ∈ q.nodeIds ∧ targets = q.listedBy id := by
  rw [← mem_keys_graph_iff]
  constructor
  · intro hrow
    refine ⟨List.mem_map.2 ⟨_, hrow, rfl⟩, ?_⟩
    have hget : q.graph.successors id = targets := Groups.get_eq_of_mem q.nodup_keys_graph hrow
    rw [← hget, successors_graph, listedBy]
  · rintro ⟨hkey, rfl⟩
    obtain ⟨⟨id, targets⟩, hrow, rfl⟩ := List.mem_map.1 hkey
    have hget : q.graph.successors id = targets := Groups.get_eq_of_mem q.nodup_keys_graph hrow
    rw [listedBy, ← successors_graph, hget]
    exact hrow

/-- What the table of a quest holds, and what it holds once it is turned around. -/
structure GraphTurned (q : Quest) : Prop where
  rows : ∀ id targets, (id, targets) ∈ q.graph ↔ id ∈ q.nodeIds ∧ targets = q.listedBy id
  nodup : (Groups.keys q.graph).Nodup
  /-- an edge is in the turned table as often as the nodes with the ID of its source list it -/
  count : ∀ s t, (q.graph.predecessors.successors t).count s =
    ((q.nodes.filter (·.id == s)).map fun n => n.outgoing.count t).sum

theorem graphTurned (q : Quest) : GraphTurned q where
  rows := q.mem_graph_iff
  nodup := q.nodup_keys_graph
  count := by
    intro s t
    rw [Adjacency.count_predecessors q.nodup_keys_graph, successors_graph, List.count_flatMap]
    rfl

end Quest

/-- **Edges turned around**: no table loses an edge or gains one, and that of a quest is turned
around from the edges of its nodes. -/
theorem edgesTurned (g : Adjacency) (hnodup : (Groups.keys g).Nodup) (q : Quest) :
    g.Turned ∧ q.GraphTurned := ⟨Adjacency.turned hnodup, q.graphTurned⟩

/-- An edge that is there twice, and one of another source to the same target. -/
def parallels : Adjacency := [(1, [2, 3, 2]), (2, []), (4, [2])]

/-- Two nodes with one ID, which share an edge. -/
def twins : Quest :=
  { id := "Twins"
    nodes := [⟨1, [], .entryPoint { next := [2, 3] }, []⟩,
      ⟨1, [], .entryPoint { next := [2] }, []⟩] }

theorem edgesTurned_parallels : (Groups.keys parallels).Nodup ∧ parallels.Turned ∧
    twins.GraphTurned ∧ parallels.predecessors = [(2, [1, 1, 4]), (3, [1])] ∧
    twins.graph = [(1, [2, 3, 2])] ∧ twins.graph.predecessors = [(2, [1, 1]), (3, [1])] := by
  have hnodup : (Groups.keys parallels).Nodup := by decide
  obtain ⟨hturned, hgraph⟩ := edgesTurned parallels hnodup twins
  exact ⟨hnodup, hturned, hgraph, by decide, by decide, by decide⟩

end QuestFlow

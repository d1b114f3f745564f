import QuestFlow.Graph.Groups
import QuestFlow.Quest.Basic

/-!
# The graph of a quest

The graph has the node IDs as its points and the legal edge lists of the nodes as its edges.  It
is kept as a table from an ID to the IDs that it leads to.  Nodes that share an ID (a fault that
is reported elsewhere) share a row, and an edge that a node lists twice is in the row twice.

`Adjacency.Edge` and `Adjacency.Walk` say what a walk in such a graph is; the searches of this
library are compared with them.
-/

namespace QuestFlow

/-- From an ID to the IDs it leads to. -/
abbrev Adjacency := Groups Int Int

namespace Adjacency

/-- The IDs that an ID leads to. -/
def successors (g : Adjacency) (id : Int) : List Int := Groups.get g id

/-- All IDs that are led to, with repeats. -/
def targets (g : Adjacency) : List Int := g.flatMap (·.2)

/-- The same edges, turned around. -/
def predecessors (g : Adjacency) : Adjacency :=
  Groups.collect (g.flatMap fun (source, targets) => targets.map fun t => (t, [source]))

/-- An edge of the graph. -/
def Edge (g : Adjacency) (a b : Int) : Prop := b ∈ g.successors a

/-- A walk that uses the listed IDs one after another, each led to by the one before. -/
inductive Walk (g : Adjacency) : Int → List Int → Int → Prop where
  /-- staying where one is -/
  | stay (a : Int) : Walk g a [a] a
  /-- an edge, and then a walk -/
  | step {a b c : Int} {ids : List Int} (edge : g.Edge a b) (rest : Walk g b ids c) :
      Walk g a (a :: ids) c

/-- Some walk leads from the first ID to the second; perhaps that of no edge. -/
def Reaches (g : Adjacency) (a b : Int) : Prop := ∃ ids, g.Walk a ids b

/-- A walk of one edge or more leads from the ID back to itself. -/
def OnCycle (g : Adjacency) (a : Int) : Prop := ∃ b, g.Edge a b ∧ g.Reaches b a

theorem mem_targets_of_mem_successors {g : Adjacency} {a b : Int} (h : b ∈ g.successors a) :
    b ∈ g.targets := by
  unfold successors at h
  induction g with
  | nil => simp at h
  | cons row g ih =>
    obtain ⟨k, ts⟩ := row
    rw [Groups.get_cons] at h
    simp only [targets, List.flatMap_cons, List.mem_append]
    split at h
    · exact .inl h
    · exact .inr (ih h)

end Adjacency

namespace Quest

/-- The graph of a quest. -/
def graph (q : Quest) : Adjacency := Groups.collect (q.nodes.map fun n => (n.id, n.outgoing))

end Quest
end QuestFlow

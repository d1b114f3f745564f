import QuestFlow.Graph.Adjacency
import QuestFlow.Graph.Unseen

/-!
# Searching by distance

A breadth-first search finds IDs in the order of their distance from where it starts.  Here it is
written by layers: the first layer is the start, and the next one holds whatever the last layer
leads to and no layer holds yet.  The order inside a layer is that in which its IDs are first
mentioned.  The search may be kept out of some IDs; it never enters those, and so never goes on
from them.

Every layer but the first holds an ID that had not been seen, so the search ends.
-/

namespace QuestFlow.Adjacency

/-- What the layer leads to: each enterable ID that has not been seen, once. -/
def nextLayer (g : Adjacency) (enter : Int → Bool) (seen layer : List Int) : List Int :=
  ((layer.flatMap g.successors).filter fun id => enter id && !seen.contains id).eraseDups

theorem mem_nextLayer {g : Adjacency} {enter : Int → Bool} {seen layer : List Int} {id : Int} :
    id ∈ g.nextLayer enter seen layer ↔
      (∃ a ∈ layer, g.Edge a id) ∧ enter id = true ∧ id ∉ seen := by
  simp [nextLayer, Edge]

/-- The layers from the given one on; `seen` holds the given layer and all before it. -/
def layersFrom (g : Adjacency) (enter : Int → Bool) (seen layer : List Int) : List (List Int) :=
  match _h : g.nextLayer enter seen layer with
  | [] => [layer]
  | id :: ids => layer :: g.layersFrom enter (seen ++ id :: ids) (id :: ids)
termination_by unseen g.targets seen
decreasing_by
  have mem : id ∈ g.nextLayer enter seen layer := by rw [_h]; exact List.mem_cons_self
  obtain ⟨⟨a, _, edge⟩, _, fresh⟩ := mem_nextLayer.1 mem
  exact unseen_lt (fun x hx => List.mem_append_left _ hx) (mem_targets_of_mem_successors edge)
    fresh (List.mem_append_right _ List.mem_cons_self)

/-- The layers of a search, the start first. -/
def layers (g : Adjacency) (enter : Int → Bool) (start : List Int) : List (List Int) :=
  g.layersFrom enter start.eraseDups start.eraseDups

/-- All IDs that a search finds, by distance. -/
def explore (g : Adjacency) (enter : Int → Bool) (start : List Int) : List Int :=
  (g.layers enter start).flatten

/-- The nearest node that satisfies `wanted`, on the way from `start` through known IDs only. -/
def nearest? (g : Adjacency) (node? : Int → Option Node) (wanted : Node → Bool)
    (start : List Int) : Option Node :=
  let known := fun id => (node? id).isSome
  (g.explore known (start.filter known)).findSome? fun id =>
    match node? id with
    | some n => if wanted n then some n else none
    | none => none

/-- The node and all nodes that lead to it through admitted nodes only, by distance. -/
def leadingTo (predecessors : Adjacency) (node? : Int → Option Node) (admitted : Node → Bool)
    (n : Node) : List Node :=
  n :: ((predecessors.explore (fun id => (node? id).any admitted) [n.id]).drop 1).filterMap node?

example : explore [(1, [2, 3]), (2, [3, 4]), (4, [1])] (fun _ => true) [1] = [1, 2, 3, 4] := by
  decide +kernel

end QuestFlow.Adjacency

import QuestFlow.Graph.Layers
import QuestFlow.Proofs.Graph.Walk

/-!
# The search by distance is right

`explore` goes through a graph layer by layer and enters only the IDs it is allowed to.  Three facts
about it carry the rules about the journal.

1. **What it finds** — `mem_explore_iff`: exactly the IDs that a start reaches by edges into IDs
   that may be entered (`EdgeInto`).  One direction is read off a layer at a time; the other is a
   closure argument: of what has been seen only the last layer can lead further (`Explored`), so
   when no new ID turns up, no edge that may be taken leaves what has been seen
   (`layersFrom_closed`).
2. **Who leads to a node** — `any_leadingTo_iff`: the chain before a node is that search, backwards.
3. **What it looks at** — `explore_congr`: of the graph only the rows that `successors` shows, in
   their order.  Two tables with the same rows in another order are explored alike.
-/

namespace QuestFlow.Adjacency

open Relation

variable {g g' : Adjacency} {enter : Int → Bool}

/-- An edge into an ID that may be entered. -/
def EdgeInto (g : Adjacency) (enter : Int → Bool) (a b : Int) : Prop :=
  g.Edge a b ∧ enter b = true

/-! ## The layers one after another -/

theorem layersFrom_of_last {seen layer : List Int} (hlast : g.nextLayer enter seen layer = []) :
    g.layersFrom enter seen layer = [layer] := by
  rw [layersFrom]
  split
  · rfl
  · rename_i hnext
    rw [hlast] at hnext
    cases hnext

theorem layersFrom_of_more {seen layer : List Int} {id : Int} {ids : List Int}
    (hmore : g.nextLayer enter seen layer = id :: ids) :
    g.layersFrom enter seen layer =
      layer :: g.layersFrom enter (seen ++ id :: ids) (id :: ids) := by
  rw [layersFrom]
  split
  · rename_i hnext
    rw [hmore] at hnext
    cases hnext
  · rename_i hnext
    rw [hmore] at hnext
    cases hnext
    rfl

/-- The given layer is the first one. -/
theorem mem_layersFrom_of_mem {seen layer : List Int} {a : Int} (ha : a ∈ layer) :
    a ∈ (g.layersFrom enter seen layer).flatten := by
  cases hnext : g.nextLayer enter seen layer with
  | nil => rw [layersFrom_of_last hnext]; simpa using ha
  | cons id ids =>
    rw [layersFrom_of_more hnext, List.flatten_cons]
    exact List.mem_append_left _ ha

/-! ## What the search finds -/

/-- Each ID of a later layer is led to from the given one. -/
theorem exists_of_mem_layersFrom (seen layer : List Int) :
    ∀ b ∈ (g.layersFrom enter seen layer).flatten,
      ∃ a ∈ layer, ReflTransGen (g.EdgeInto enter) a b := by
  induction seen, layer using layersFrom.induct g enter with
  | case1 seen layer hlast =>
    intro b hb
    rw [layersFrom_of_last hlast] at hb
    exact ⟨b, by simpa using hb, .refl⟩
  | case2 seen layer id ids hmore ih =>
    intro b hb
    rw [layersFrom_of_more hmore, List.flatten_cons] at hb
    rcases List.mem_append.1 hb with hb | hb
    · exact ⟨b, hb, .refl⟩
    · obtain ⟨c, hc, hreach⟩ := ih b hb
      rw [← hmore] at hc
      obtain ⟨⟨a, ha, hedge⟩, hmay, _⟩ := mem_nextLayer.1 hc
      exact ⟨a, ha, .head ⟨hedge, hmay⟩ hreach⟩

/-- **The invariant of the search**: of what has been seen, only the given layer can lead to
something new. -/
def Explored (g : Adjacency) (enter : Int → Bool) (seen layer : List Int) : Prop :=
  ∀ a ∈ seen, a ∉ layer → ∀ b, g.EdgeInto enter a b → b ∈ seen

/-- What the given layer leads to has been seen, or is in the next layer. -/
theorem mem_append_nextLayer {seen layer : List Int} {a b : Int} (ha : a ∈ layer)
    (hedge : g.EdgeInto enter a b) : b ∈ seen ++ g.nextLayer enter seen layer := by
  by_cases hb : b ∈ seen
  · exact List.mem_append_left _ hb
  · exact List.mem_append_right _ (mem_nextLayer.2 ⟨⟨a, ha, hedge.1⟩, hedge.2, hb⟩)

/-- One layer further, the invariant holds of the next layer. -/
theorem Explored.next {seen layer : List Int} (h : Explored g enter seen layer) :
    Explored g enter (seen ++ g.nextLayer enter seen layer) (g.nextLayer enter seen layer) := by
  intro a ha hold b hedge
  have ha : a ∈ seen := (List.mem_append.1 ha).resolve_right hold
  by_cases hlayer : a ∈ layer
  · exact mem_append_nextLayer hlayer hedge
  · exact List.mem_append_left _ (h a ha hlayer b hedge)

/-- **The search leaves nothing behind.**  If before the given layer nothing new could be entered,
then after all layers nothing new can be entered. -/
theorem layersFrom_closed (seen layer : List Int) : Explored g enter seen layer →
    ∀ a, (a ∈ seen ∨ a ∈ (g.layersFrom enter seen layer).flatten) → ∀ b, g.EdgeInto enter a b →
      b ∈ seen ∨ b ∈ (g.layersFrom enter seen layer).flatten := by
  induction seen, layer using layersFrom.induct g enter with
  | case1 seen layer hlast =>
    intro hexplored a ha b hedge
    rw [layersFrom_of_last hlast] at ha
    left
    by_cases hlayer : a ∈ layer
    · -- an unseen target would make another layer
      have hb : b ∈ seen ++ g.nextLayer enter seen layer := mem_append_nextLayer hlayer hedge
      rw [hlast, List.append_nil] at hb
      exact hb
    · have ha : a ∈ seen := by simpa [hlayer] using ha
      exact hexplored a ha hlayer b hedge
  | case2 seen layer id ids hmore ih =>
    intro hexplored a ha b hedge
    have hnext := hexplored.next
    rw [hmore] at hnext
    rw [layersFrom_of_more hmore, List.flatten_cons] at ha ⊢
    have hgoal : b ∈ seen ++ id :: ids ∨
        b ∈ (g.layersFrom enter (seen ++ id :: ids) (id :: ids)).flatten := by
      rcases ha with ha | ha
      · exact ih hnext a (.inl (List.mem_append_left _ ha)) b hedge
      · rcases List.mem_append.1 ha with ha | ha
        · have hb : b ∈ seen ++ g.nextLayer enter seen layer := mem_append_nextLayer ha hedge
          exact .inl (hmore ▸ hb)
        · exact ih hnext a (.inr ha) b hedge
    rcases hgoal with hb | hb
    · -- the new IDs are in the next layer, so the two ways of having been seen agree
      rcases List.mem_append.1 hb with hb | hb
      · exact .inl hb
      · exact .inr (List.mem_append_right _ (mem_layersFrom_of_mem hb))
    · exact .inr (List.mem_append_right _ hb)

/-- **The search finds what can be reached**, and nothing else. -/
theorem mem_explore_iff {start : List Int} {b : Int} :
    b ∈ g.explore enter start ↔ ∃ a ∈ start, ReflTransGen (g.EdgeInto enter) a b := by
  have hfirst : ∀ a ∈ start, a ∈ g.explore enter start := fun a ha =>
    mem_layersFrom_of_mem (List.mem_eraseDups.2 ha)
  have hclosed : ∀ a ∈ g.explore enter start, ∀ b, g.EdgeInto enter a b →
      b ∈ g.explore enter start := by
    intro a ha b hedge
    have hstart : Explored g enter start.eraseDups start.eraseDups :=
      fun a ha hoff => absurd ha hoff
    rcases layersFrom_closed _ _ hstart a (.inr ha) b hedge with hb | hb
    · exact mem_layersFrom_of_mem hb
    · exact hb
  constructor
  · intro hb
    obtain ⟨a, ha, hreach⟩ := exists_of_mem_layersFrom _ _ b hb
    exact ⟨a, List.mem_eraseDups.1 ha, hreach⟩
  · rintro ⟨a, ha, hreach⟩
    induction hreach with
    | refl => exact hfirst a ha
    | tail _ hedge ih => exact hclosed _ ih _ hedge

/-! ## The nodes that lead to a node -/

/-- A search from one ID finds that ID first. -/
theorem exists_explore_eq_cons (g : Adjacency) (enter : Int → Bool) (a : Int) :
    ∃ rest, g.explore enter [a] = a :: rest := by
  have hstart : [a].eraseDups = [a] := rfl
  rw [explore, layers, hstart]
  cases hnext : g.nextLayer enter [a] [a] with
  | nil =>
    rw [layersFrom_of_last hnext]
    exact ⟨[], rfl⟩
  | cons id ids =>
    rw [layersFrom_of_more hnext]
    exact ⟨_, rfl⟩

/-- The chain before a node goes on with the nodes of what a search from its ID finds after it. -/
theorem exists_leadingTo_eq (g : Adjacency) (node? : Int → Option Node) (admitted : Node → Bool)
    (n : Node) : ∃ found, g.explore (fun id => (node? id).any admitted) [n.id] = n.id :: found ∧
      g.leadingTo node? admitted n = n :: found.filterMap node? := by
  obtain ⟨found, hexplore⟩ := exists_explore_eq_cons g (fun id => (node? id).any admitted) n.id
  refine ⟨found, hexplore, ?_⟩
  rw [leadingTo, hexplore]
  rfl

/-- The nodes that lead to a node are those that the search backwards finds, if the ID of the node
is found to be its own. -/
theorem leadingTo_eq_filterMap {node? : Int → Option Node} {admitted : Node → Bool} {n : Node}
    (hself : node? n.id = some n) :
    g.leadingTo node? admitted n =
      (g.explore (fun id => (node? id).any admitted) [n.id]).filterMap node? := by
  obtain ⟨found, hexplore, hleading⟩ := exists_leadingTo_eq g node? admitted n
  rw [hleading, hexplore, List.filterMap_cons_some hself]

/-- Some node that leads to `n` satisfies a test exactly when an ID that is reached backwards,
through admitted nodes only, is that of such a node. -/
theorem any_leadingTo_iff {node? : Int → Option Node} {admitted test : Node → Bool} {n : Node}
    (hself : node? n.id = some n) :
    (g.leadingTo node? admitted n).any test = true ↔
      ∃ id m, ReflTransGen (g.EdgeInto fun id => (node? id).any admitted) n.id id ∧
        node? id = some m ∧ test m = true := by
  rw [leadingTo_eq_filterMap hself, List.any_eq_true]
  constructor
  · rintro ⟨m, hm, htest⟩
    obtain ⟨id, hid, hnode⟩ := List.mem_filterMap.1 hm
    obtain ⟨a, ha, hreach⟩ := mem_explore_iff.1 hid
    obtain rfl : a = n.id := by simpa using ha
    exact ⟨id, m, hreach, hnode, htest⟩
  · rintro ⟨id, m, hreach, hnode, htest⟩
    have hid := mem_explore_iff.2 ⟨n.id, List.mem_singleton_self _, hreach⟩
    exact ⟨m, List.mem_filterMap.2 ⟨id, hid, hnode⟩, htest⟩

/-! ## What the search looks at -/

theorem layersFrom_congr (hrows : ∀ a, g.successors a = g'.successors a) (seen layer : List Int) :
    g.layersFrom enter seen layer = g'.layersFrom enter seen layer := by
  have hnext : ∀ seen layer, g.nextLayer enter seen layer = g'.nextLayer enter seen layer := by
    intro seen layer
    have hsucc : g.successors = g'.successors := funext hrows
    rw [nextLayer, nextLayer, hsucc]
  induction seen, layer using layersFrom.induct g enter with
  | case1 seen layer hlast =>
    have hlast' : g'.nextLayer enter seen layer = [] := (hnext seen layer).symm.trans hlast
    rw [layersFrom_of_last hlast, layersFrom_of_last hlast']
  | case2 seen layer id ids hmore ih =>
    have hmore' : g'.nextLayer enter seen layer = id :: ids :=
      (hnext seen layer).symm.trans hmore
    rw [layersFrom_of_more hmore, layersFrom_of_more hmore', ih]

/-- **Only the rows count**, not where they stand in the table. -/
theorem explore_congr (hrows : ∀ a, g.successors a = g'.successors a) (start : List Int) :
    g.explore enter start = g'.explore enter start := by
  rw [explore, explore, layers, layers, layersFrom_congr hrows]

end QuestFlow.Adjacency

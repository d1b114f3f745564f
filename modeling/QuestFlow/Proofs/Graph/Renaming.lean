import Mathlib.Data.List.Basic
import QuestFlow.Graph.Cycle
import QuestFlow.Proofs.Graph.Layers

/-!
# Graphs under other IDs

IDs are compared with each other and otherwise only carried along, so a table in which every ID has
been replaced by its image under an injective map behaves like the one it came from.  Each lemma
here runs an algorithm twice, once before and once after the replacement, and says that the results
correspond.  Nothing is asked of the graph: it may have cycles, edges to IDs without a row, and
edges that are listed twice.

1. **Tables** — `Groups.collect_image`: gathering arrivals under new keys gives the gathered table
   under new keys.  Looking a row up (`successors_rename`) and turning the table around
   (`predecessors_rename`) follow.
2. **The search for a cycle** — `search_rename`: both runs take the same branch at each step, since
   an ID is on the stack or among those seen exactly if its image is.
3. **The search by distance** — `explore_rename`, layer by layer; `eraseDups_map` is what makes the
   order inside a layer correspond.
-/

namespace QuestFlow

open Function

/-- Dropping repeats from a list commutes with an injective map. -/
theorem eraseDups_map {α β : Type} [DecidableEq α] [DecidableEq β] {f : α → β} (hf : Injective f) :
    ∀ xs : List α, (xs.map f).eraseDups = xs.eraseDups.map f
  | [] => rfl
  | x :: xs => by
    have hsame : ((fun b => !b == f x) ∘ f) = fun a => !a == x := by
      funext a
      by_cases h : a = x
      · simp [h]
      · have hne : f a ≠ f x := fun heq => h (hf heq)
        simp [h, hne]
    rw [List.map_cons, List.eraseDups_cons, List.eraseDups_cons, List.map_cons, List.filter_map,
      hsame, eraseDups_map hf (xs.filter fun a => !a == x)]
termination_by xs => xs.length
decreasing_by
  have hle := List.length_filter_le (fun a => !a == x) xs
  simp only [List.length_cons]
  omega

namespace Groups

variable {κ κ' α β : Type} {f : κ → κ'} {h : α → β}

/-- The table with other keys and other members in the same places. -/
def image (f : κ → κ') (h : α → β) (gs : Groups κ α) : Groups κ' β :=
  gs.map fun (key, values) => (f key, values.map h)

theorem image_cons (f : κ → κ') (h : α → β) (key : κ) (values : List α) (gs : Groups κ α) :
    image f h ((key, values) :: gs) = (f key, values.map h) :: image f h gs := rfl

variable [DecidableEq κ] [DecidableEq κ']

theorem add_image (hf : Injective f) (key : κ) (values : List α) (gs : Groups κ α) :
    add (f key) (values.map h) (image f h gs) = image f h (add key values gs) := by
  induction gs with
  | nil => rfl
  | cons g gs ih =>
    obtain ⟨k, vs⟩ := g
    by_cases hk : k = key
    · simp [image, add, hk]
    · have hne : f k ≠ f key := fun heq => hk (hf heq)
      rw [image_cons, add, add, if_neg hk, if_neg hne, image_cons, ih]

/-- Gathering under new keys. -/
theorem collect_image (hf : Injective f) (arrivals : List (κ × List α)) :
    collect (image f h arrivals) = image f h (collect arrivals) := by
  suffices hall : ∀ gs : Groups κ α,
      (image f h arrivals).foldl (fun gs (key, values) => add key values gs) (image f h gs) =
        image f h (arrivals.foldl (fun gs (key, values) => add key values gs) gs) from hall []
  induction arrivals with
  | nil => exact fun gs => rfl
  | cons a arrivals ih =>
    intro gs
    obtain ⟨key, values⟩ := a
    simp only [image_cons, List.foldl_cons, add_image hf]
    exact ih (add key values gs)

theorem get_image (hf : Injective f) (gs : Groups κ α) (key : κ) :
    get (image f h gs) (f key) = (get gs key).map h := by
  induction gs with
  | nil => rfl
  | cons g gs ih =>
    obtain ⟨k, vs⟩ := g
    rw [image_cons, get_cons, get_cons]
    by_cases hk : k = key
    · simp [hk]
    · have hne : f k ≠ f key := fun heq => hk (hf heq)
      rw [if_neg hk, if_neg hne]
      exact ih

end Groups

namespace Adjacency

variable {f : Int → Int} {g : Adjacency}

/-- The graph with every ID replaced. -/
def rename (f : Int → Int) (g : Adjacency) : Adjacency := Groups.image f f g

theorem successors_rename (hf : Injective f) (g : Adjacency) (a : Int) :
    (g.rename f).successors (f a) = (g.successors a).map f :=
  Groups.get_image hf g a

theorem targets_rename (f : Int → Int) (g : Adjacency) :
    (g.rename f).targets = g.targets.map f := by
  rw [targets, targets, List.map_flatMap, rename, Groups.image, List.flatMap_map]

theorem predecessors_rename (hf : Injective f) (g : Adjacency) :
    (g.rename f).predecessors = g.predecessors.rename f := by
  -- the edges arrive in the same order, each with both of its ends replaced
  rw [predecessors, predecessors, rename, rename, ← Groups.collect_image hf]
  refine congrArg Groups.collect ?_
  rw [Groups.image, Groups.image, List.flatMap_map, List.map_flatMap]
  refine List.flatMap_congr fun row _ => ?_
  obtain ⟨source, targets⟩ := row
  simp only [List.map_map]
  rfl

/-! ## The search for a cycle -/

/-- The outcome of a search with every ID replaced. -/
def SearchOutcome.rename (f : Int → Int) : SearchOutcome → SearchOutcome
  | .closed source target => .closed (f source) (f target)
  | .acyclic seen => .acyclic (seen.map f)

/-- The stack of a search with every ID replaced. -/
def renameStack (f : Int → Int) (stack : List (Int × List Int)) : List (Int × List Int) :=
  stack.map fun (id, rest) => (f id, rest.map f)

theorem renameStack_cons (f : Int → Int) (entry : Int × List Int) (below : List (Int × List Int)) :
    renameStack f (entry :: below) = (f entry.1, entry.2.map f) :: renameStack f below := rfl

theorem map_fst_renameStack (f : Int → Int) (stack : List (Int × List Int)) :
    (renameStack f stack).map (·.1) = (stack.map (·.1)).map f := by
  rw [renameStack, List.map_map, List.map_map]
  rfl

/-- **Two searches in step**: under an injective replacement each goes on as the other does. -/
theorem search_rename (hf : Injective f) (g : Adjacency) (seen : List Int)
    (stack : List (Int × List Int)) :
    search (g.rename f) (seen.map f) (renameStack f stack) = (search g seen stack).rename f := by
  -- the only question about the stack is whether an ID is on it
  have hpath : ∀ (id : Int) (rest : List Int) (below : List (Int × List Int)) (next : Int),
      f next ∈ ((f id, f next :: rest.map f) :: renameStack f below).map (·.1) ↔
        next ∈ ((id, next :: rest) :: below).map (·.1) := by
    intro id rest below next
    rw [← List.mem_map_of_injective hf (l := ((id, next :: rest) :: below).map (·.1)),
      ← map_fst_renameStack]
    rfl
  fun_induction search g seen stack with
  | case1 seen => rw [renameStack, List.map_nil, search]; rfl
  | case2 seen id below ih =>
    rw [renameStack_cons, List.map_nil, search]
    exact ih
  | case3 seen id next rest below hback =>
    rw [renameStack_cons, List.map_cons, search, if_pos ((hpath id rest below next).2 hback)]
    rfl
  | case4 seen id next rest below hoff hseen ih =>
    rw [renameStack_cons, List.map_cons, search, if_neg (mt (hpath id rest below next).1 hoff),
      if_pos ((List.mem_map_of_injective hf).2 hseen)]
    exact ih
  | case5 seen id next rest below hoff hfresh ih =>
    rw [renameStack_cons, List.map_cons, search, if_neg (mt (hpath id rest below next).1 hoff),
      if_neg (mt (List.mem_map_of_injective hf).1 hfresh), successors_rename hf]
    exact ih

theorem searchFrom_rename (hf : Injective f) (g : Adjacency) (roots : List Int) :
    ∀ seen, searchFrom (g.rename f) (seen.map f) (roots.map f) =
      (searchFrom g seen roots).rename f := by
  induction roots with
  | nil => exact fun seen => rfl
  | cons root roots ih =>
    intro seen
    rw [List.map_cons, searchFrom, searchFrom]
    by_cases hseen : root ∈ seen
    · rw [if_pos hseen, if_pos ((List.mem_map_of_injective hf).2 hseen)]
      exact ih seen
    · have hsearch := search_rename hf g (root :: seen) [(root, g.successors root)]
      simp only [renameStack, List.map_cons, List.map_nil] at hsearch
      rw [if_neg hseen, if_neg (mt (List.mem_map_of_injective hf).1 hseen), successors_rename hf,
        hsearch]
      cases search g (root :: seen) [(root, g.successors root)] with
      | closed source target => rfl
      | acyclic seen' => exact ih seen'

/-- The edge that closes a cycle is the image of the one found before. -/
theorem closingEdge?_rename (hf : Injective f) (g : Adjacency) (roots : List Int) :
    (g.rename f).closingEdge? (roots.map f) =
      (g.closingEdge? roots).map fun (source, target) => (f source, f target) := by
  have hsearch := searchFrom_rename hf g roots []
  rw [List.map_nil] at hsearch
  rw [closingEdge?, closingEdge?, hsearch]
  cases searchFrom g [] roots <;> rfl

theorem hasCycle_rename (hf : Injective f) (g : Adjacency) (roots : List Int) :
    (g.rename f).hasCycle (roots.map f) = g.hasCycle roots := by
  rw [hasCycle, hasCycle, closingEdge?_rename hf, Option.isSome_map]

/-! ## The search by distance -/

section Layers

variable {enter enter' : Int → Bool}

theorem nextLayer_rename (hf : Injective f) (henter : ∀ a, enter' (f a) = enter a)
    (seen layer : List Int) :
    (g.rename f).nextLayer enter' (seen.map f) (layer.map f) =
      (g.nextLayer enter seen layer).map f := by
  have hled : (layer.map f).flatMap (g.rename f).successors =
      (layer.flatMap g.successors).map f := by
    rw [List.flatMap_map, List.map_flatMap]
    simp only [successors_rename hf]
  have htaken : ((fun id => enter' id && !(seen.map f).contains id) ∘ f) =
      fun id => enter id && !seen.contains id := by
    funext id
    have hseen : (seen.map f).contains (f id) = seen.contains id := by
      rw [Bool.eq_iff_iff, List.contains_iff_mem, List.contains_iff_mem,
        List.mem_map_of_injective hf]
    rw [comp_apply, henter, hseen]
  rw [nextLayer, nextLayer, hled, List.filter_map, htaken, eraseDups_map hf]

theorem layersFrom_rename (hf : Injective f) (henter : ∀ a, enter' (f a) = enter a)
    (seen layer : List Int) :
    (g.rename f).layersFrom enter' (seen.map f) (layer.map f) =
      (g.layersFrom enter seen layer).map (List.map f) := by
  induction seen, layer using layersFrom.induct g enter with
  | case1 seen layer hlast =>
    have hlast' := nextLayer_rename (g := g) hf henter seen layer
    rw [hlast, List.map_nil] at hlast'
    rw [layersFrom_of_last hlast, layersFrom_of_last hlast']
    rfl
  | case2 seen layer id ids hmore ih =>
    have hmore' := nextLayer_rename (g := g) hf henter seen layer
    rw [hmore, List.map_cons] at hmore'
    rw [List.map_append, List.map_cons] at ih
    rw [layersFrom_of_more hmore, layersFrom_of_more hmore', List.map_cons, ih]

/-- **The images of what is found are found**, in the same order. -/
theorem explore_rename (hf : Injective f) (henter : ∀ a, enter' (f a) = enter a)
    (start : List Int) :
    (g.rename f).explore enter' (start.map f) = (g.explore enter start).map f := by
  rw [explore, explore, layers, layers, eraseDups_map hf, layersFrom_rename hf henter,
    List.map_flatten]

end Layers

/-! ## Nodes -/

section Nodes

variable {node? node?' : Int → Option Node} {φ : Node → Node}

/-- The nearest node is the image of the nearest node, if IDs have the images of their nodes. -/
theorem nearest?_rename (hf : Injective f) (hnode : ∀ a, node?' (f a) = (node? a).map φ)
    {wanted : Node → Bool} (hwanted : ∀ n, wanted (φ n) = wanted n) (start : List Int) :
    (g.rename f).nearest? node?' wanted (start.map f) = (g.nearest? node? wanted start).map φ := by
  have hknown : ∀ a, (node?' (f a)).isSome = (node? a).isSome := by
    intro a
    rw [hnode, Option.isSome_map]
  have hstart : (start.map f).filter (fun id => (node?' id).isSome) =
      (start.filter fun id => (node? id).isSome).map f := by
    rw [List.filter_map]
    exact congrArg (List.map f) (List.filter_congr fun a _ => hknown a)
  rw [nearest?, nearest?, hstart, explore_rename hf hknown, List.findSome?_map, List.map_findSome?]
  refine congrArg (fun look => List.findSome? look _) (funext fun a => ?_)
  simp only [comp_apply, hnode]
  cases node? a with
  | none => rfl
  | some n =>
    simp only [Option.map_some, hwanted]
    split <;> rfl

/-- The nodes that lead to the image of a node are the images of those that lead to it. -/
theorem leadingTo_rename (hf : Injective f) (hnode : ∀ a, node?' (f a) = (node? a).map φ)
    {admitted : Node → Bool} (hadmitted : ∀ n, admitted (φ n) = admitted n) (n : Node)
    (hid : (φ n).id = f n.id) :
    (g.rename f).leadingTo node?' admitted (φ n) = (g.leadingTo node? admitted n).map φ := by
  have henter : ∀ a, (node?' (f a)).any admitted = (node? a).any admitted := by
    intro a
    rw [hnode]
    cases node? a with
    | none => rfl
    | some m => exact hadmitted m
  have hfound : (g.rename f).explore (fun a => (node?' a).any admitted) [f n.id] =
      (g.explore (fun a => (node? a).any admitted) [n.id]).map f := explore_rename hf henter [n.id]
  rw [leadingTo, leadingTo, hid, hfound, List.map_cons, ← List.map_drop, List.filterMap_map,
    List.map_filterMap]
  exact congrArg (fun look => φ n :: List.filterMap look _) (funext hnode)

end Nodes

end Adjacency
end QuestFlow

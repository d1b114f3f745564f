import QuestFlow.Proofs.Graph.Layers

/-!
# The search goes by distance

`Proofs.Graph.Layers` says which IDs a search finds; here it is shown in which order.  `InSteps`
counts edges: it holds of an ID that a start reaches by exactly so many edges into IDs that may be
entered.

1. **The invariant** — `Levelled`: before the layer at a depth is looked at, everything that is
   nearer has been listed, and everything that can be reached in that many steps has been seen.
   `Levelled.next` takes it one layer further.
2. **The order** — `depthAfter_of_explore_eq`: wherever the list of all found IDs is cut, the ID at
   the cut has a depth, and whatever can be reached in fewer steps stands before the cut.
3. **The nearest node** — `nearest?_eq_none_iff` and `nearest?_spec`: a search for a node fails
   exactly when no wanted node can be reached, and otherwise ends at one that no wanted node is
   nearer than.
-/

namespace QuestFlow.Adjacency

open Relation

variable {g : Adjacency} {enter : Int → Bool} {start : List Int}

/-- A start reaches the ID by exactly this many edges into IDs that may be entered. -/
def InSteps (g : Adjacency) (enter : Int → Bool) (start : List Int) : Nat → Int → Prop
  | 0, b => b ∈ start
  | n + 1, b => ∃ a, g.InSteps enter start n a ∧ g.EdgeInto enter a b

/-- What can be reached can be reached in some number of steps. -/
theorem exists_inSteps_iff {b : Int} :
    (∃ n, g.InSteps enter start n b) ↔ ∃ a ∈ start, ReflTransGen (g.EdgeInto enter) a b := by
  constructor
  · rintro ⟨n, hsteps⟩
    induction n generalizing b with
    | zero => exact ⟨b, hsteps, .refl⟩
    | succ n ih =>
      obtain ⟨c, hc, hedge⟩ := hsteps
      obtain ⟨a, ha, hreach⟩ := ih hc
      exact ⟨a, ha, hreach.tail hedge⟩
  · rintro ⟨a, ha, hreach⟩
    induction hreach with
    | refl => exact ⟨0, ha⟩
    | tail _ hedge ih =>
      obtain ⟨n, hn⟩ := ih
      exact ⟨n + 1, _, hn, hedge⟩

/-! ## Layers and depths -/

/-- **The invariant of the search by distance.**  The layer at the given depth is next; `before`
lists the layers above it. -/
structure Levelled (g : Adjacency) (enter : Int → Bool) (start : List Int) (depth : Nat)
    (before seen layer : List Int) : Prop where
  exact_depth : ∀ b ∈ layer, g.InSteps enter start depth b
  nearer : ∀ n < depth, ∀ b, g.InSteps enter start n b → b ∈ before
  level : ∀ b, g.InSteps enter start depth b → b ∈ before ∨ b ∈ layer
  seen_iff : ∀ b, b ∈ seen ↔ b ∈ before ∨ b ∈ layer
  explored : Explored g enter seen layer

/-- Before the search, the start is the layer at depth zero. -/
theorem levelled_start (g : Adjacency) (enter : Int → Bool) (start : List Int) :
    Levelled g enter start 0 [] start.eraseDups start.eraseDups where
  exact_depth b hb := List.mem_eraseDups.1 hb
  nearer n hn := absurd hn (Nat.not_lt_zero n)
  level b hb := .inr (List.mem_eraseDups.2 hb)
  seen_iff b := by simp
  explored a ha hoff := absurd ha hoff

/-- One layer further. -/
theorem Levelled.next {depth : Nat} {before seen layer : List Int}
    (h : Levelled g enter start depth before seen layer) :
    Levelled g enter start (depth + 1) (before ++ layer)
      (seen ++ g.nextLayer enter seen layer) (g.nextLayer enter seen layer) where
  exact_depth b hb := by
    obtain ⟨⟨a, ha, hedge⟩, hmay, _⟩ := mem_nextLayer.1 hb
    exact ⟨a, h.exact_depth a ha, hedge, hmay⟩
  nearer n hn b hb := by
    rcases Nat.lt_or_eq_of_le (Nat.le_of_lt_succ hn) with hlt | rfl
    · exact List.mem_append_left _ (h.nearer n hlt b hb)
    · exact List.mem_append.2 (h.level b hb)
  level b hb := by
    obtain ⟨a, ha, hedge⟩ := hb
    -- an edge leads into what has been seen or into the next layer, wherever it starts
    have hfound : b ∈ seen ++ g.nextLayer enter seen layer := by
      by_cases hlayer : a ∈ layer
      · exact mem_append_nextLayer hlayer hedge
      · have hseen : a ∈ seen := (h.seen_iff a).2 (h.level a ha)
        exact List.mem_append_left _ (h.explored a hseen hlayer b hedge)
    rcases List.mem_append.1 hfound with hseen | hnext
    · exact .inl (List.mem_append.2 ((h.seen_iff b).1 hseen))
    · exact .inr hnext
  seen_iff b := by
    rw [List.mem_append, List.mem_append, h.seen_iff]
  explored := h.explored.next

/-! ## The order of what is found -/

/-- The ID has a depth, and `before` has whatever can be reached in fewer steps. -/
def DepthAfter (g : Adjacency) (enter : Int → Bool) (start before : List Int) (b : Int) : Prop :=
  ∃ d, g.InSteps enter start d b ∧ ∀ n < d, ∀ c, g.InSteps enter start n c → c ∈ before

/-- An ID of the given layer has its depth. -/
theorem Levelled.depthAfter {depth : Nat} {before seen layer : List Int} {b : Int}
    (h : Levelled g enter start depth before seen layer) (hb : b ∈ layer) (more : List Int) :
    g.DepthAfter enter start (before ++ more) b := by
  refine ⟨depth, h.exact_depth b hb, fun n hn c hc => ?_⟩
  exact List.mem_append_left _ (h.nearer n hn c hc)

/-- Wherever the remaining layers are cut, the ID at the cut has its depth. -/
theorem Levelled.depthAfter_of_layersFrom {above before after seen layer : List Int} {depth : Nat}
    {b : Int} (h : Levelled g enter start depth above seen layer)
    (hcut : (g.layersFrom enter seen layer).flatten = before ++ b :: after) :
    g.DepthAfter enter start (above ++ before) b := by
  induction seen, layer using layersFrom.induct g enter generalizing depth above before with
  | case1 seen layer hlast =>
    rw [layersFrom_of_last hlast, List.flatten_singleton] at hcut
    have hb : b ∈ layer := by
      rw [hcut]
      exact List.mem_append_right _ List.mem_cons_self
    exact h.depthAfter hb before
  | case2 seen layer id ids hmore ih =>
    have hnext := h.next
    rw [hmore] at hnext
    rw [layersFrom_of_more hmore, List.flatten_cons] at hcut
    -- the cut is either behind the given layer or in it
    rcases List.append_eq_append_iff.1 hcut with ⟨later, rfl, hlater⟩ | ⟨rest, rfl, hrest⟩
    · have hdepth := ih hnext hlater
      rwa [List.append_assoc] at hdepth
    · cases rest with
      | nil =>
        have hnone : ((g.layersFrom enter (seen ++ id :: ids) (id :: ids)).flatten) =
            [] ++ b :: after := hrest.symm
        have hdepth := ih hnext hnone
        simpa using hdepth
      | cons c rest =>
        obtain ⟨rfl, -⟩ := List.cons.inj hrest
        have hb : b ∈ before ++ b :: rest := List.mem_append_right _ List.mem_cons_self
        exact h.depthAfter hb before

/-- **What is nearer is listed earlier.**  Each found ID has a depth, and before it stands whatever
can be reached in fewer steps. -/
theorem depthAfter_of_explore_eq {before after : List Int} {b : Int}
    (hcut : g.explore enter start = before ++ b :: after) : g.DepthAfter enter start before b :=
  (levelled_start g enter start).depthAfter_of_layersFrom hcut

theorem mem_explore_iff_inSteps {b : Int} :
    b ∈ g.explore enter start ↔ ∃ n, g.InSteps enter start n b := by
  rw [mem_explore_iff, exists_inSteps_iff]

/-! ## The nearest node -/

section Nearest

variable {node? : Int → Option Node} {wanted : Node → Bool}

/-- The number of steps to an ID through IDs that have a node. -/
def InKnownSteps (g : Adjacency) (node? : Int → Option Node) (start : List Int) (n : Nat)
    (b : Int) : Prop :=
  g.InSteps (fun id => (node? id).isSome) (start.filter fun id => (node? id).isSome) n b

/-- **The search fails** exactly when no wanted node can be reached. -/
theorem nearest?_eq_none_iff : g.nearest? node? wanted start = none ↔
    ∀ n id m, g.InKnownSteps node? start n id → node? id = some m → wanted m = false := by
  rw [nearest?, List.findSome?_eq_none_iff]
  constructor
  · intro hnone n id m hsteps hnode
    have hlooked := hnone id (mem_explore_iff_inSteps.2 ⟨n, hsteps⟩)
    simpa [hnode] using hlooked
  · intro hunwanted id hid
    obtain ⟨n, hsteps⟩ := mem_explore_iff_inSteps.1 hid
    cases hnode : node? id with
    | none => rfl
    | some m => simp [hunwanted n id m hsteps hnode]

/-- **The search ends at a nearest node**: it is wanted, and no wanted node can be reached in fewer
steps. -/
theorem nearest?_spec {m : Node} (hfound : g.nearest? node? wanted start = some m) :
    wanted m = true ∧ ∃ d id, g.InKnownSteps node? start d id ∧ node? id = some m ∧
      ∀ n id' m', g.InKnownSteps node? start n id' → node? id' = some m' → wanted m' = true →
        d ≤ n := by
  rw [nearest?, List.findSome?_eq_some_iff] at hfound
  obtain ⟨before, id, after, hcut, hid, hbefore⟩ := hfound
  obtain ⟨d, hsteps, hnearer⟩ := depthAfter_of_explore_eq hcut
  have hnode : node? id = some m ∧ wanted m = true := by
    cases hnode : node? id with
    | none => simp [hnode] at hid
    | some m' =>
      have hwanted : wanted m' = true ∧ m' = m := by simpa [hnode] using hid
      obtain ⟨hwanted, rfl⟩ := hwanted
      exact ⟨rfl, hwanted⟩
  refine ⟨hnode.2, d, id, hsteps, hnode.1, fun n id' m' hsteps' hnode' hwanted => ?_⟩
  -- a nearer wanted node would stand before the one that was found, and have been taken
  by_contra hlt
  have hmem : id' ∈ before := hnearer n (Nat.lt_of_not_le hlt) id' hsteps'
  simpa [hnode', hwanted] using hbefore id' hmem

end Nearest

end QuestFlow.Adjacency

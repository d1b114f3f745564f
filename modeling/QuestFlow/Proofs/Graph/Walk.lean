import Mathlib.Data.Set.Finite.List
import Mathlib.Logic.Relation
import Mathlib.Order.WellFoundedSet
import QuestFlow.Graph.Adjacency

/-!
# Walks in a graph

`Adjacency.Walk` lists the IDs that a walk uses; most proofs only ask whether there is a walk.

1. **One relation, two readings** — `reaches_iff` and `onCycle_iff` say that `Reaches` and `OnCycle`
   are the reflexive-transitive and the transitive closure of `Edge`, so that the library's lemmas
   on closures apply.
2. **Closed sets** — a set that every edge out of it leads back into holds whatever its members
   reach (`Reaches.mem_of_closed`).  The searches are judged by this lemma: what they have finished
   with is such a set.
3. **No cycle, no endless descent** — only finitely many IDs have an edge at all, so in a graph
   without a cycle going back along the edges comes to an end (`wellFounded_edge`), and a chain of
   edges has no ID twice (`nodup_of_isChain`).
-/

namespace QuestFlow.Adjacency

open Relation

variable {g : Adjacency} {a b c : Int}

/-! ## Composing walks -/

theorem Reaches.refl (g : Adjacency) (a : Int) : g.Reaches a a := ⟨[a], .stay a⟩

theorem Reaches.head (hedge : g.Edge a b) (hrest : g.Reaches b c) : g.Reaches a c := by
  obtain ⟨ids, hwalk⟩ := hrest
  exact ⟨a :: ids, .step hedge hwalk⟩

/-- A walk is a chain of edges, and the other way round. -/
theorem reaches_iff : g.Reaches a b ↔ ReflTransGen g.Edge a b := by
  constructor
  · rintro ⟨ids, hwalk⟩
    induction hwalk with
    | stay a => exact .refl
    | step hedge _ ih => exact .head hedge ih
  · intro hchain
    induction hchain using ReflTransGen.head_induction_on with
    | refl => exact .refl g b
    | head hedge _ ih => exact .head hedge ih

theorem Reaches.trans (hab : g.Reaches a b) (hbc : g.Reaches b c) : g.Reaches a c := by
  rw [reaches_iff] at *
  exact ReflTransGen.trans hab hbc

/-- An ID is on a cycle if a chain of one edge or more leads back to it. -/
theorem onCycle_iff : g.OnCycle a ↔ TransGen g.Edge a a := by
  constructor
  · rintro ⟨b, hedge, hback⟩
    exact TransGen.head' hedge (reaches_iff.1 hback)
  · intro hcycle
    obtain ⟨b, hedge, hback⟩ := TransGen.head'_iff.1 hcycle
    exact ⟨b, hedge, reaches_iff.2 hback⟩

/-- Whatever a walk leads to lies in every set that its start lies in and that no edge leaves. -/
theorem Reaches.mem_of_closed {S : Int → Prop} (hclosed : ∀ x, S x → ∀ y, g.Edge x y → S y)
    (hreach : g.Reaches a b) (hstart : S a) : S b := by
  obtain ⟨ids, hwalk⟩ := hreach
  induction hwalk with
  | stay a => exact hstart
  | step hedge _ ih => exact ih (hclosed _ hstart _ hedge)

/-! ## Where edges can start -/

/-- Only an ID with a row of its own has an edge. -/
theorem Edge.mem_keys (hedge : g.Edge a b) : a ∈ Groups.keys g := by
  by_contra hkey
  have hnone : g.successors a = [] := Groups.get_eq_nil_of_notMem hkey
  rw [Edge, hnone] at hedge
  exact List.not_mem_nil hedge

/-! ## Graphs without a cycle -/

/-- **No endless descent.**  In a graph without a cycle one cannot go back along edges for ever.
The closure of the edges is a strict order there, and the IDs it can go back to are the finitely
many keys of the table. -/
theorem wellFounded_edge (hacyclic : ∀ a, ¬ g.OnCycle a) : WellFounded g.Edge := by
  have horder : IsStrictOrder Int (TransGen g.Edge) :=
    { irrefl := fun a hcycle => hacyclic a (onCycle_iff.2 hcycle)
      trans := fun _ _ _ => TransGen.trans }
  have hkeys : {a | a ∈ Groups.keys g}.WellFoundedOn (TransGen g.Edge) :=
    (List.finite_toSet _).wellFoundedOn
  have hacc : ∀ a ∈ Groups.keys g, Acc g.Edge a := by
    intro a ha
    refine hkeys.induction ha fun b _ ih => ⟨b, ?_⟩
    intro c hedge
    exact ih c hedge.mem_keys (.single hedge)
  -- an ID that is no key can still be led to, but one step back there are only keys
  refine ⟨fun a => ⟨a, ?_⟩⟩
  intro b hedge
  exact hacc b hedge.mem_keys

/-- In a graph without a cycle no chain of edges comes by the same ID twice. -/
theorem nodup_of_isChain (hacyclic : ∀ a, ¬ g.OnCycle a) {ids : List Int}
    (hchain : ids.IsChain g.Edge) : ids.Nodup := by
  have hpairs : ids.Pairwise (TransGen g.Edge) :=
    List.isChain_iff_pairwise.1 (hchain.imp fun _ _ => .single)
  refine hpairs.imp fun {a b} hab heq => ?_
  subst heq
  exact hacyclic a (onCycle_iff.2 hab)

end QuestFlow.Adjacency

import QuestFlow.Proofs.Graph.Distance
import QuestFlow.Proofs.Graph.Queue
import QuestFlow.Proofs.Quest.Graph

/-!
# The nodes that lead to a node

`leadingTo` gathers a node and those before it, going back along a table of predecessors and through
admitted nodes only.  What it should gather is said by walks that end at the node: all IDs before
the end have admitted nodes.  The node itself need not be admitted, and it need not be the one that
its ID is looked up as.

1. **Steps and walks** — `inSteps_iff`: so many steps back are an admitted walk with one ID more.
   The search adds a step where the walk begins, so both are taken apart from the same side.
2. **The order** — `pairwise_explore`: nothing is found before what is nearer.
3. **The answer** — `leadingExact`: the node comes first, behind it comes every node from which an
   admitted walk leads there, no ID comes twice, and the distances never decrease.  A queue gathers
   the same chain.
-/

namespace QuestFlow

/-- A relation that holds across every cut of a list holds between its members in their order. -/
theorem pairwise_of_cuts {α : Type} {R : α → α → Prop} {xs : List α}
    (hcuts : ∀ before x after, xs = before ++ x :: after → ∀ y ∈ after, R x y) :
    xs.Pairwise R := by
  induction xs with
  | nil => exact .nil
  | cons x xs ih =>
    refine .cons (hcuts [] x xs rfl) (ih fun before y after hcut => ?_)
    exact hcuts (x :: before) y after (by rw [hcut, List.cons_append])

namespace Adjacency

variable {g p : Adjacency} {enter : Int → Bool} {node? : Int → Option Node}
  {admitted : Node → Bool} {start ids : List Int} {b s : Int} {n : Node}

/-! ## Steps and walks -/

/-- A walk to an ID, each ID of which is listed among the predecessors of the next one; all IDs but
the last have admitted nodes. -/
structure AdmittedWalk (p : Adjacency) (node? : Int → Option Node) (admitted : Node → Bool)
    (ids : List Int) (b s : Int) : Prop where
  starts : ids.head? = some b
  ends : ids.getLast? = some s
  leads : ids.IsChain fun v w => v ∈ p.successors w
  admits : ∀ id ∈ ids.dropLast, ∃ m, node? id = some m ∧ admitted m = true

/-- The walk that stays where it should end. -/
theorem AdmittedWalk.stay (p : Adjacency) (node? : Int → Option Node) (admitted : Node → Bool)
    (s : Int) : p.AdmittedWalk node? admitted [s] s s :=
  ⟨rfl, rfl, .singleton s, by simp⟩

/-- A walk has at least the ID that it starts at. -/
theorem AdmittedWalk.exists_length_eq (hwalk : p.AdmittedWalk node? admitted ids b s) :
    ∃ k, ids.length = k + 1 := by
  cases ids with
  | nil => cases hwalk.starts
  | cons a ids => exact ⟨ids.length, rfl⟩

/-- **Steps back are admitted walks**, and a walk has one ID more than steps. -/
theorem inSteps_iff {k : Nat} : p.InSteps (fun id => (node? id).any admitted) [s] k b ↔
    ∃ ids, ids.length = k + 1 ∧ p.AdmittedWalk node? admitted ids b s := by
  constructor
  · intro hsteps
    induction k generalizing b with
    | zero =>
      obtain rfl : b = s := List.mem_singleton.1 hsteps
      exact ⟨[b], rfl, .stay p node? admitted b⟩
    | succ k ih =>
      obtain ⟨c, hc, hedge, hadmitted⟩ := hsteps
      obtain ⟨ids, hlength, hstarts, hends, hleads, hadmits⟩ := ih hc
      cases ids with
      | nil => cases hstarts
      | cons c' ids =>
        obtain rfl : c' = c := Option.some.inj hstarts
        refine ⟨b :: c' :: ids, by simp [hlength], rfl, ?_, ?_, ?_⟩
        · rw [List.getLast?_cons_cons]
          exact hends
        · exact List.isChain_cons_cons.2 ⟨hedge, hleads⟩
        · rw [List.dropLast_cons_cons]
          exact List.forall_mem_cons.2 ⟨(Option.any_eq_true _ _).1 hadmitted, hadmits⟩
  · rintro ⟨ids, hlength, hstarts, hends, hleads, hadmits⟩
    induction ids generalizing b k with
    | nil => cases hstarts
    | cons b' ids ih =>
      obtain rfl : b' = b := Option.some.inj hstarts
      cases ids with
      | nil =>
        obtain rfl : b' = s := Option.some.inj hends
        obtain rfl : k = 0 := by simpa using hlength.symm
        exact List.mem_singleton_self b'
      | cons c ids =>
        obtain ⟨hedge, hleads⟩ := List.isChain_cons_cons.1 hleads
        rw [List.getLast?_cons_cons] at hends
        rw [List.dropLast_cons_cons] at hadmits
        obtain ⟨hadmitted, hadmits⟩ := List.forall_mem_cons.1 hadmits
        obtain ⟨k, rfl⟩ : ∃ j, k = j + 1 := ⟨ids.length, by simpa using hlength.symm⟩
        have hsteps := ih (b := c) (k := k) (by simpa using hlength) rfl hends hleads hadmits
        exact ⟨c, hsteps, hedge, (Option.any_eq_true _ _).2 hadmitted⟩

/-- What is found on the way back are the IDs that admitted walks come from. -/
theorem mem_explore_iff_admittedWalk :
    b ∈ p.explore (fun id => (node? id).any admitted) [s] ↔
      ∃ ids, p.AdmittedWalk node? admitted ids b s := by
  rw [mem_explore_iff_inSteps]
  constructor
  · rintro ⟨k, hsteps⟩
    obtain ⟨ids, -, hwalk⟩ := inSteps_iff.1 hsteps
    exact ⟨ids, hwalk⟩
  · rintro ⟨ids, hwalk⟩
    obtain ⟨k, hlength⟩ := hwalk.exists_length_eq
    exact ⟨k, inSteps_iff.2 ⟨ids, hlength, hwalk⟩⟩

/-! ## The order -/

/-- **Nothing is found before what is nearer**: an ID that is found earlier can be reached in no
more steps. -/
theorem pairwise_explore (g : Adjacency) (enter : Int → Bool) (start : List Int) :
    (g.explore enter start).Pairwise fun a b =>
      ∀ k, g.InSteps enter start k b → ∃ j ≤ k, g.InSteps enter start j a := by
  refine pairwise_of_cuts fun before a after hcut b hb k hsteps => ?_
  obtain ⟨d, hd, hnearer⟩ := depthAfter_of_explore_eq hcut
  refine ⟨d, ?_, hd⟩
  -- what takes fewer steps stands in front of the cut, and nothing stands there twice
  by_contra hlt
  have hfront : b ∈ before := hnearer k (Nat.lt_of_not_le hlt) b hsteps
  have hnodup := nodup_explore g enter start
  rw [hcut, List.nodup_append] at hnodup
  exact hnodup.2.2 b hfront b (List.mem_cons_of_mem _ hb) rfl

/-! ## The answer -/

/-- Behind the node itself come the nodes of the other IDs that admitted walks come from. -/
theorem mem_filterMap_of_explore_eq {found : List Int} {m : Node}
    (hexplore : p.explore (fun id => (node? id).any admitted) [s] = s :: found) :
    m ∈ found.filterMap node? ↔
      ∃ b ids, b ≠ s ∧ node? b = some m ∧ p.AdmittedWalk node? admitted ids b s := by
  have hnodup := nodup_explore p (fun id => (node? id).any admitted) [s]
  rw [hexplore, List.nodup_cons] at hnodup
  rw [List.mem_filterMap]
  constructor
  · rintro ⟨b, hb, hnode⟩
    have hmem : b ∈ p.explore (fun id => (node? id).any admitted) [s] := by
      rw [hexplore]
      exact List.mem_cons_of_mem _ hb
    obtain ⟨ids, hwalk⟩ := mem_explore_iff_admittedWalk.1 hmem
    exact ⟨b, ids, fun hbs => hnodup.1 (hbs ▸ hb), hnode, hwalk⟩
  · rintro ⟨b, ids, hbs, hnode, hwalk⟩
    have hmem := mem_explore_iff_admittedWalk.2 ⟨ids, hwalk⟩
    rw [hexplore] at hmem
    exact ⟨b, (List.mem_cons.1 hmem).resolve_left hbs, hnode⟩

/-- No admitted walk from the second node is shorter than all those from the first. -/
def NoFarther (p : Adjacency) (node? : Int → Option Node) (admitted : Node → Bool) (s : Int)
    (m m' : Node) : Prop :=
  ∀ ids', p.AdmittedWalk node? admitted ids' m'.id s →
    ∃ ids, p.AdmittedWalk node? admitted ids m.id s ∧ ids.length ≤ ids'.length

/-- What gathering the nodes before a node promises, for any table of predecessors and any node. -/
structure LeadingExact (p : Adjacency) (node? : Int → Option Node) (admitted : Node → Bool)
    (n : Node) : Prop where
  /-- the node comes first, and behind it come the nodes of the other IDs from which an admitted
  walk leads to its ID -/
  gathered : ∃ rest, p.leadingTo node? admitted n = n :: rest ∧
    ∀ m, m ∈ rest ↔ ∃ b ids, b ≠ n.id ∧ node? b = some m ∧
      p.AdmittedWalk node? admitted ids b n.id
  distinct : ((p.leadingTo node? admitted n).map (·.id)).Nodup
  /-- the distances never decrease -/
  ordered : (p.leadingTo node? admitted n).Pairwise (p.NoFarther node? admitted n.id)
  /-- it does not matter whether the search goes by layers or keeps a queue -/
  queue : p.collectInQueue node? admitted [n.id] [n] [n.id] = p.leadingTo node? admitted n

section Lookup

variable (hlookup : ∀ id m, node? id = some m → m.id = id)

include hlookup

/-- No ID comes twice, and that of the node itself only in front. -/
theorem nodup_ids_leadingTo : ((p.leadingTo node? admitted n).map (·.id)).Nodup := by
  obtain ⟨found, hexplore, hleading⟩ := exists_leadingTo_eq p node? admitted n
  have hnodup := nodup_explore p (fun id => (node? id).any admitted) [n.id]
  rw [hexplore, List.nodup_cons] at hnodup
  rw [hleading, List.map_cons, List.nodup_cons]
  refine ⟨fun hid => ?_, ?_⟩
  · obtain ⟨m, hm, hsame⟩ := List.mem_map.1 hid
    obtain ⟨b, hb, hnode⟩ := List.mem_filterMap.1 hm
    have hb' : b = n.id := (hlookup b m hnode).symm.trans hsame
    exact hnodup.1 (hb' ▸ hb)
  · have hne := List.nodup_iff_pairwise_ne.1 hnodup.2
    rw [List.nodup_iff_pairwise_ne, List.pairwise_map]
    refine hne.filterMap node? fun a a' hdiff m hm m' hm' hsame => ?_
    exact hdiff ((hlookup a m hm).symm.trans (hsame.trans (hlookup a' m' hm')))

/-- What is found in no more steps is the end of a walk that is no longer. -/
theorem noFarther_of_inSteps {a a' : Int} {m m' : Node} (hm : node? a = some m)
    (hm' : node? a' = some m')
    (hnearer : ∀ k, p.InSteps (fun id => (node? id).any admitted) [s] k a' →
      ∃ j ≤ k, p.InSteps (fun id => (node? id).any admitted) [s] j a) :
    p.NoFarther node? admitted s m m' := by
  intro ids' hwalk'
  rw [hlookup a' m' hm'] at hwalk'
  rw [hlookup a m hm]
  obtain ⟨k, hlength'⟩ := hwalk'.exists_length_eq
  obtain ⟨j, hle, hsteps⟩ := hnearer k (inSteps_iff.2 ⟨ids', hlength', hwalk'⟩)
  obtain ⟨ids, hlength, hwalk⟩ := inSteps_iff.1 hsteps
  exact ⟨ids, hwalk, by omega⟩

/-- The distances along the chain never decrease. -/
theorem pairwise_leadingTo :
    (p.leadingTo node? admitted n).Pairwise (p.NoFarther node? admitted n.id) := by
  obtain ⟨found, hexplore, hleading⟩ := exists_leadingTo_eq p node? admitted n
  have horder := pairwise_explore p (fun id => (node? id).any admitted) [n.id]
  rw [hexplore, List.pairwise_cons] at horder
  rw [hleading, List.pairwise_cons]
  constructor
  · -- nothing is nearer than the node itself
    intro m' _ ids' hwalk'
    obtain ⟨k, hlength'⟩ := hwalk'.exists_length_eq
    refine ⟨[n.id], .stay p node? admitted n.id, ?_⟩
    rw [List.length_singleton]
    omega
  · exact horder.2.filterMap node? fun a a' hnearer m hm m' hm' =>
      noFarther_of_inSteps hlookup hm hm' hnearer

/-- **Gathering the nodes before a node is exact**, if looking up an ID gives a node with it. -/
theorem leadingExact (p : Adjacency) (admitted : Node → Bool) (n : Node) :
    p.LeadingExact node? admitted n where
  gathered := by
    obtain ⟨found, hexplore, hleading⟩ := exists_leadingTo_eq p node? admitted n
    exact ⟨_, hleading, fun m => mem_filterMap_of_explore_eq hexplore⟩
  distinct := nodup_ids_leadingTo hlookup
  ordered := pairwise_leadingTo hlookup
  queue := collectInQueue_eq p node? admitted n

end Lookup

end Adjacency

/-- A quest in which 5 is led to from 3 and from 6.  Only the way through 6 is one of actions nodes,
and it goes in circles. -/
def sideDoor : Quest where
  id := "SideDoor"
  nodes := [
    ⟨1, [], .actions { next := [3, 4] } [], []⟩,
    ⟨3, [], .dialog { next := [5] } {} [], []⟩,
    ⟨4, [], .actions { next := [6] } [], []⟩,
    ⟨6, [], .actions { next := [5, 4, 9] } [], []⟩,
    ⟨5, [], .actions { next := [6] } [], []⟩]

/-- A node that has the ID of another one and is not admitted. -/
def stranger : Node := ⟨5, [], .dialog {} {} [], []⟩

/-- The way round is found, although the shorter way is blocked, and it starts at the stranger. -/
theorem leadingExact_sideDoor :
    (∀ id m, sideDoor.node? id = some m → m.id = id) ∧
    sideDoor.graph.predecessors.LeadingExact sideDoor.node? (·.isActions) stranger ∧
    sideDoor.node? stranger.id ≠ some stranger ∧ stranger.isActions = false ∧
    sideDoor.graph.predecessors.leadingTo sideDoor.node? (·.isActions) stranger =
      [stranger, sideDoor.nodes[3], sideDoor.nodes[2], sideDoor.nodes[0]] := by
  have hlookup : ∀ id m, sideDoor.node? id = some m → m.id = id := fun _ _ => Quest.id_of_node?
  refine ⟨hlookup, Adjacency.leadingExact hlookup _ _ stranger, by decide, by decide, ?_⟩
  cbv

end QuestFlow

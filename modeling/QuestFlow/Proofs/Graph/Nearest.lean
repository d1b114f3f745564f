import QuestFlow.Proofs.Graph.Distance
import QuestFlow.Proofs.Graph.Queue

/-!
# The nearest wanted node

`nearest?` is asked for a node that satisfies a test, and for one that is as near as any.  What near
means is said by walks: a walk may start at any of the given IDs, and it goes through IDs that have
a node; an ID without a node is a dead end, even if the table has a row for it.

1. **Steps and walks** — `inKnownSteps_iff`: so many steps of the search are a walk with one ID
   more.  A walk is extended at its end where the search takes a step (`Walk.concat`), and is
   followed from its start where the steps are counted (`InSteps.follow`).
2. **The answer** — `nearestExact`: there is none exactly when no walk leads to a wanted node, and
   otherwise it is the node at the end of a shortest one.  A queue in which IDs wait several times
   gives the same answer.
-/

namespace QuestFlow.Adjacency

variable {g : Adjacency} {enter : Int → Bool} {node? : Int → Option Node} {wanted : Node → Bool}
  {start ids : List Int} {a b c : Int}

/-! ## Steps and walks -/

/-- An edge more at the end of a walk. -/
theorem Walk.concat (hwalk : g.Walk a ids b) (hedge : g.Edge b c) : g.Walk a (ids ++ [c]) c := by
  induction hwalk with
  | stay a => exact .step hedge (.stay c)
  | step hfirst _ ih => exact .step hfirst (ih hedge)

/-- A walk uses the ID that it starts at. -/
theorem Walk.start_mem (hwalk : g.Walk a ids b) : a ∈ ids := by
  cases hwalk <;> exact List.mem_cons_self

/-- Following a walk takes one step for each ID behind the first. -/
theorem InSteps.follow {n : Nat} (hsteps : g.InSteps enter start n a) (hwalk : g.Walk a ids b)
    (henter : ∀ id ∈ ids, enter id = true) :
    ∃ m, m + 1 = n + ids.length ∧ g.InSteps enter start m b := by
  induction hwalk generalizing n with
  | stay a => exact ⟨n, rfl, hsteps⟩
  | @step a d b ids hedge hrest ih =>
    obtain ⟨-, henter⟩ := List.forall_mem_cons.1 henter
    have hstep : g.InSteps enter start (n + 1) d :=
      ⟨a, hsteps, hedge, henter d hrest.start_mem⟩
    obtain ⟨m, hm, hend⟩ := ih hstep henter
    refine ⟨m, ?_, hend⟩
    rw [List.length_cons]
    omega

/-- A walk from one of the given IDs, all of whose IDs have a node. -/
structure KnownWalk (g : Adjacency) (node? : Int → Option Node) (start ids : List Int) (b : Int) :
    Prop where
  walk : ∃ a ∈ start, g.Walk a ids b
  known : ∀ id ∈ ids, (node? id).isSome = true

/-- **Steps are walks**, and a walk has one ID more than steps. -/
theorem inKnownSteps_iff {n : Nat} : g.InKnownSteps node? start n b ↔
    ∃ ids, ids.length = n + 1 ∧ g.KnownWalk node? start ids b := by
  constructor
  · intro hsteps
    induction n generalizing b with
    | zero =>
      obtain ⟨hb, hknown⟩ := List.mem_filter.1 hsteps
      exact ⟨[b], rfl, ⟨b, hb, .stay b⟩, by simpa using hknown⟩
    | succ n ih =>
      obtain ⟨d, hd, hedge, hknown⟩ := hsteps
      obtain ⟨ids, hlength, ⟨a, ha, hwalk⟩, hids⟩ := ih hd
      refine ⟨ids ++ [b], by simp [hlength], ⟨a, ha, hwalk.concat hedge⟩, fun id hid => ?_⟩
      rcases List.mem_append.1 hid with hid | hid
      · exact hids id hid
      · obtain rfl := List.mem_singleton.1 hid
        exact hknown
  · rintro ⟨ids, hlength, ⟨a, ha, hwalk⟩, hknown⟩
    have hstart : g.InKnownSteps node? start 0 a :=
      List.mem_filter.2 ⟨ha, hknown a hwalk.start_mem⟩
    obtain ⟨m, hm, hend⟩ := hstart.follow hwalk hknown
    obtain rfl : m = n := by omega
    exact hend

/-- Each walk is some number of steps, because it has at least the ID that it starts at. -/
theorem KnownWalk.exists_steps (hwalk : g.KnownWalk node? start ids b) :
    ∃ n, ids.length = n + 1 ∧ g.InKnownSteps node? start n b := by
  obtain ⟨a, -, hfrom⟩ := hwalk.walk
  have hpos : 0 < ids.length := List.length_pos_of_mem hfrom.start_mem
  obtain ⟨n, hn⟩ := Nat.exists_eq_succ_of_ne_zero hpos.ne'
  exact ⟨n, hn, inKnownSteps_iff.2 ⟨ids, hn, hwalk⟩⟩

/-! ## The answer -/

/-- What the search for the nearest wanted node promises, for any table, any IDs to start from and
any way of looking up nodes. -/
structure NearestExact (g : Adjacency) (node? : Int → Option Node) (wanted : Node → Bool)
    (start : List Int) : Prop where
  /-- it fails exactly when no walk leads to a wanted node -/
  none_iff : g.nearest? node? wanted start = none ↔
    ∀ ids b m, g.KnownWalk node? start ids b → node? b = some m → wanted m = false
  /-- otherwise it ends at a wanted node, and no walk to a wanted node is shorter than one there -/
  nearest : ∀ m, g.nearest? node? wanted start = some m → wanted m = true ∧
    ∃ ids b, g.KnownWalk node? start ids b ∧ node? b = some m ∧
      ∀ ids' b' m', g.KnownWalk node? start ids' b' → node? b' = some m' → wanted m' = true →
        ids.length ≤ ids'.length
  /-- it does not matter whether it goes by layers or keeps a queue in which IDs may wait several
  times -/
  queue : g.nearestInQueue? node? wanted [] start = g.nearest? node? wanted start

/-- **The search for the nearest node is exact.** -/
theorem nearestExact (g : Adjacency) (node? : Int → Option Node) (wanted : Node → Bool)
    (start : List Int) : g.NearestExact node? wanted start where
  none_iff := by
    rw [nearest?_eq_none_iff]
    constructor
    · intro hnone ids b m hwalk hnode
      obtain ⟨n, -, hsteps⟩ := hwalk.exists_steps
      exact hnone n b m hsteps hnode
    · intro hnone n b m hsteps hnode
      obtain ⟨ids, -, hwalk⟩ := inKnownSteps_iff.1 hsteps
      exact hnone ids b m hwalk hnode
  nearest m hfound := by
    obtain ⟨hwanted, d, b, hsteps, hnode, hleast⟩ := nearest?_spec hfound
    obtain ⟨ids, hlength, hwalk⟩ := inKnownSteps_iff.1 hsteps
    refine ⟨hwanted, ids, b, hwalk, hnode, fun ids' b' m' hwalk' hnode' hwanted' => ?_⟩
    obtain ⟨n, hlength', hsteps'⟩ := hwalk'.exists_steps
    have hle : d ≤ n := hleast n b' m' hsteps' hnode' hwanted'
    omega
  queue := nearestInQueue?_eq g node? wanted start

end QuestFlow.Adjacency

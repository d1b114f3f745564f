import QuestFlow.Graph.Cycle
import QuestFlow.Proofs.Graph.Walk

/-!
# The search for a cycle is right

`hasCycle` runs a depth-first search with an explicit stack.  The main statement is

    hasCycle_iff : g.hasCycle roots = true ↔ ∃ root ∈ roots, ∃ a, g.Reaches root a ∧ g.OnCycle a

for every table and every list of roots: IDs without a row, repeated edges and repeated roots are
all allowed.

1. **What the stack means** — `Frames`: each entry is led to by the one below it, holds as untried
   only successors of its ID, and has seen every other successor; a successor that it has tried lies
   neither on it nor below it, for otherwise the search would have stopped there.
2. **What is done with** — `Settled`: an ID that has been seen and is no longer on the stack leads
   only to such IDs and is on no cycle.
3. **One step** — `Searching.pop`, `Searching.skip` and `Searching.push` say that each way in which
   the search goes on keeps both; `Frames.onCycle` says that the one way in which it stops has found
   a cycle.
4. **A run** — `search_closed` and `search_acyclic`, by induction on the search.  When the stack is
   empty, everything seen is done with, so no root that was seen reaches a cycle.
-/

namespace QuestFlow.Adjacency

variable {g : Adjacency}

/-! ## The invariant -/

/-- What holds of the stack, from its top down. -/
def Frames (g : Adjacency) (seen : List Int) : List (Int × List Int) → Prop
  | [] => True
  | (id, rest) :: below =>
    (∀ b ∈ rest, g.Edge id b) ∧
    (∀ b, g.Edge id b → b ∈ rest ∨ (b ∈ seen ∧ b ∉ id :: below.map (·.1))) ∧
    (∀ entry ∈ below.head?, g.Edge entry.1 id) ∧
    Frames g seen below

/-- A set that no edge leaves and in which no ID is on a cycle. -/
structure Settled (g : Adjacency) (S : Int → Prop) : Prop where
  closed : ∀ a, S a → ∀ b, g.Edge a b → S b
  acyclic : ∀ a, S a → ¬ g.OnCycle a

/-- **The invariant of the search**: the stack is a path, and what has left it is settled. -/
structure Searching (g : Adjacency) (seen : List Int) (stack : List (Int × List Int)) : Prop where
  frames : Frames g seen stack
  settled : Settled g fun a => a ∈ seen ∧ a ∉ stack.map (·.1)

/-- Seeing more keeps the frames. -/
theorem Frames.mono {seen seen' : List Int} (hsub : ∀ a ∈ seen, a ∈ seen') :
    ∀ {stack : List (Int × List Int)}, Frames g seen stack → Frames g seen' stack
  | [], _ => trivial
  | (id, rest) :: below, ⟨hrest, htried, hled, hbelow⟩ => by
    refine ⟨hrest, fun b hedge => ?_, hled, hbelow.mono hsub⟩
    rcases htried b hedge with hb | ⟨hb, hoff⟩
    · exact .inl hb
    · exact .inr ⟨hsub b hb, hoff⟩

theorem Settled.congr {S T : Int → Prop} (hS : Settled g S) (heq : ∀ a, T a ↔ S a) :
    Settled g T where
  closed a ha b hedge := (heq b).2 (hS.closed a ((heq a).1 ha) b hedge)
  acyclic a ha := hS.acyclic a ((heq a).1 ha)

/-- Nothing in a settled set reaches a cycle. -/
theorem Settled.not_reaches_cycle {S : Int → Prop} (hS : Settled g S) {a b : Int} (ha : S a)
    (hreach : g.Reaches a b) : ¬ g.OnCycle b :=
  hS.acyclic b (hreach.mem_of_closed hS.closed ha)

/-! ## One step of the search -/

/-- Each ID on the stack reaches the one on top. -/
theorem Frames.reaches_top {seen : List Int} : ∀ {below : List (Int × List Int)} {id : Int}
    {rest : List Int}, Frames g seen ((id, rest) :: below) →
    ∀ a ∈ id :: below.map (·.1), g.Reaches a id
  | [], id, _, _, a, ha => by
    obtain rfl : a = id := by simpa using ha
    exact .refl g a
  | (lower, _) :: below, id, _, ⟨_, _, hled, hbelow⟩, a, ha => by
    rcases List.mem_cons.1 ha with rfl | ha
    · exact .refl g a
    · have hedge : g.Edge lower id := hled _ rfl
      have hlower : g.Reaches a lower := hbelow.reaches_top a ha
      exact hlower.trans (.head hedge (.refl g id))

/-- **The search stops on a cycle**: an edge from the top back to the stack closes one. -/
theorem Frames.onCycle {seen : List Int} {id next : Int} {rest : List Int}
    {below : List (Int × List Int)} (hframes : Frames g seen ((id, next :: rest) :: below))
    (hback : next ∈ id :: below.map (·.1)) : g.Edge id next ∧ g.OnCycle next := by
  have hedge : g.Edge id next := hframes.1 next List.mem_cons_self
  have hup : g.Reaches next id := hframes.reaches_top next hback
  refine ⟨hedge, ?_⟩
  rw [onCycle_iff, Relation.TransGen.tail'_iff]
  exact ⟨id, reaches_iff.1 hup, hedge⟩

/-- Leaving an ID all of whose successors have been tried. -/
theorem Searching.pop {seen : List Int} {id : Int} {below : List (Int × List Int)}
    (h : Searching g seen ((id, []) :: below)) : Searching g seen below := by
  obtain ⟨⟨_, htried, _, hbelow⟩, hsettled⟩ := h
  -- what the top leads to is settled already, and does not lead back to it
  have hnext : ∀ b, g.Edge id b → b ∈ seen ∧ b ∉ id :: below.map (·.1) := fun b hedge =>
    (htried b hedge).resolve_left List.not_mem_nil
  have hsplit : ∀ a, a ∈ seen ∧ a ∉ below.map (·.1) →
      a = id ∨ (a ∈ seen ∧ a ∉ id :: below.map (·.1)) := by
    rintro a ⟨hseen, hoff⟩
    by_cases ha : a = id
    · exact .inl ha
    · exact .inr ⟨hseen, by simpa [ha] using hoff⟩
  have hlarger : ∀ a, a ∈ seen ∧ a ∉ id :: below.map (·.1) → a ∈ seen ∧ a ∉ below.map (·.1) :=
    fun a ha => ⟨ha.1, fun hmem => ha.2 (List.mem_cons_of_mem _ hmem)⟩
  refine ⟨hbelow, fun a ha b hedge => ?_, fun a ha hcycle => ?_⟩
  · rcases hsplit a ha with rfl | ha
    · exact hlarger b (hnext b hedge)
    · exact hlarger b (hsettled.closed a ha b hedge)
  · rcases hsplit a ha with rfl | ha
    · obtain ⟨b, hedge, hreach⟩ := hcycle
      have hself := hreach.mem_of_closed hsettled.closed (hnext b hedge)
      exact hself.2 List.mem_cons_self
    · exact hsettled.acyclic a ha hcycle

/-- Passing over a successor that is done with. -/
theorem Searching.skip {seen : List Int} {id next : Int} {rest : List Int}
    {below : List (Int × List Int)} (h : Searching g seen ((id, next :: rest) :: below))
    (hoff : next ∉ id :: below.map (·.1)) (hseen : next ∈ seen) :
    Searching g seen ((id, rest) :: below) := by
  obtain ⟨⟨hrest, htried, hled, hbelow⟩, hsettled⟩ := h
  refine ⟨⟨fun b hb => hrest b (List.mem_cons_of_mem _ hb), fun b hedge => ?_, hled, hbelow⟩,
    hsettled⟩
  rcases htried b hedge with hb | hb
  · rcases List.mem_cons.1 hb with rfl | hb
    · exact .inr ⟨hseen, hoff⟩
    · exact .inl hb
  · exact .inr hb

/-- What comes to be seen and on the stack at once leaves the rest as it was. -/
theorem seen_off_cons_iff {seen path : List Int} {next a : Int} (hfresh : next ∉ seen) :
    (a ∈ next :: seen ∧ a ∉ next :: path) ↔ (a ∈ seen ∧ a ∉ path) := by
  constructor
  · rintro ⟨hseen, hpath⟩
    have hne : a ≠ next := fun heq => hpath (heq ▸ List.mem_cons_self)
    exact ⟨(List.mem_cons.1 hseen).resolve_left hne,
      fun hmem => hpath (List.mem_cons_of_mem _ hmem)⟩
  · rintro ⟨hseen, hpath⟩
    have hne : a ≠ next := fun heq => hfresh (heq ▸ hseen)
    refine ⟨List.mem_cons_of_mem _ hseen, fun hmem => ?_⟩
    exact hpath ((List.mem_cons.1 hmem).resolve_left hne)

/-- Going on to a successor that has not been seen. -/
theorem Searching.push {seen : List Int} {id next : Int} {rest : List Int}
    {below : List (Int × List Int)} (h : Searching g seen ((id, next :: rest) :: below))
    (hoff : next ∉ id :: below.map (·.1)) (hfresh : next ∉ seen) :
    Searching g (next :: seen) ((next, g.successors next) :: (id, rest) :: below) := by
  obtain ⟨⟨hrest, htried, hled, hbelow⟩, hsettled⟩ := h
  have hsub : ∀ a ∈ seen, a ∈ next :: seen := fun a ha => List.mem_cons_of_mem _ ha
  refine ⟨⟨fun b hb => hb, fun b hedge => .inl hedge, ?_, ?_⟩,
    hsettled.congr fun a => seen_off_cons_iff hfresh⟩
  · rintro entry ⟨⟩
    exact hrest next List.mem_cons_self
  · refine ⟨fun b hb => hrest b (List.mem_cons_of_mem _ hb), fun b hedge => ?_, hled,
      hbelow.mono hsub⟩
    rcases htried b hedge with hb | ⟨hb, hb'⟩
    · rcases List.mem_cons.1 hb with rfl | hb
      · exact .inr ⟨List.mem_cons_self, hoff⟩
      · exact .inl hb
    · exact .inr ⟨hsub b hb, hb'⟩

/-- A search that starts at an unseen root, when everything seen is settled. -/
theorem Searching.start {seen : List Int} {root : Int} (hsettled : Settled g (· ∈ seen))
    (hfresh : root ∉ seen) : Searching g (root :: seen) [(root, g.successors root)] := by
  refine ⟨⟨fun b hb => hb, fun b hedge => .inl hedge, by simp, trivial⟩, hsettled.congr fun a => ?_⟩
  have hnothing : (a ∈ seen ∧ a ∉ ([] : List Int)) ↔ a ∈ seen := by simp
  exact (seen_off_cons_iff hfresh).trans hnothing

/-! ## A run of the search -/

/-- **Soundness**: the edge that the search stops at closes a cycle, and the stack led to it. -/
theorem search_closed {seen : List Int} {stack : List (Int × List Int)} {source target : Int}
    (h : Searching g seen stack) (hstop : search g seen stack = .closed source target) :
    g.Edge source target ∧ g.OnCycle target ∧ ∃ a ∈ stack.map (·.1), g.Reaches a target := by
  fun_induction search g seen stack with
  | case1 seen => cases hstop
  | case2 seen id below ih =>
    obtain ⟨hedge, hcycle, a, ha, hreach⟩ := ih h.pop hstop
    exact ⟨hedge, hcycle, a, List.mem_cons_of_mem _ ha, hreach⟩
  | case3 seen id next rest below hback =>
    cases hstop
    obtain ⟨hedge, hcycle⟩ := h.frames.onCycle hback
    exact ⟨hedge, hcycle, target, hback, .refl g target⟩
  | case4 seen id next rest below hoff hseen ih => exact ih (h.skip hoff hseen) hstop
  | case5 seen id next rest below hoff hfresh ih =>
    obtain ⟨hedge, hcycle, a, ha, hreach⟩ := ih (h.push hoff hfresh) hstop
    rcases List.mem_cons.1 ha with rfl | ha
    · -- what the new top reaches, the old top reaches through it
      have hled : g.Edge id a := h.frames.1 a List.mem_cons_self
      exact ⟨hedge, hcycle, id, List.mem_cons_self, .head hled hreach⟩
    · exact ⟨hedge, hcycle, a, ha, hreach⟩

/-- **Completeness**: when the search runs out, all that it has seen is settled. -/
theorem search_acyclic {seen seen' : List Int} {stack : List (Int × List Int)}
    (h : Searching g seen stack) (hend : search g seen stack = .acyclic seen') :
    (∀ a ∈ seen, a ∈ seen') ∧ Settled g (· ∈ seen') := by
  fun_induction search g seen stack with
  | case1 seen =>
    cases hend
    exact ⟨fun a ha => ha, h.settled.congr fun a => by simp⟩
  | case2 seen id below ih => exact ih h.pop hend
  | case3 seen id next rest below hback => cases hend
  | case4 seen id next rest below hoff hseen ih => exact ih (h.skip hoff hseen) hend
  | case5 seen id next rest below hoff hfresh ih =>
    obtain ⟨hsub, hsettled⟩ := ih (h.push hoff hfresh) hend
    exact ⟨fun a ha => hsub a (List.mem_cons_of_mem _ ha), hsettled⟩

theorem searchFrom_closed {roots : List Int} {source target : Int} :
    ∀ {seen : List Int}, Settled g (· ∈ seen) →
    searchFrom g seen roots = .closed source target →
    g.Edge source target ∧ g.OnCycle target ∧ ∃ root ∈ roots, g.Reaches root target := by
  induction roots with
  | nil => intro seen _ hstop; cases hstop
  | cons root roots ih =>
    intro seen hsettled hstop
    have hlater : ∀ {seen'}, Settled g (· ∈ seen') →
        searchFrom g seen' roots = .closed source target →
        g.Edge source target ∧ g.OnCycle target ∧
          ∃ r ∈ root :: roots, g.Reaches r target := by
      intro seen' hsettled' hstop'
      obtain ⟨hedge, hcycle, r, hr, hreach⟩ := ih hsettled' hstop'
      exact ⟨hedge, hcycle, r, List.mem_cons_of_mem _ hr, hreach⟩
    rw [searchFrom] at hstop
    split at hstop
    · exact hlater hsettled hstop
    · rename_i hfresh
      split at hstop
      · rename_i hclosed
        cases hstop
        obtain ⟨hedge, hcycle, a, ha, hreach⟩ := search_closed (.start hsettled hfresh) hclosed
        obtain rfl : a = root := by simpa using ha
        exact ⟨hedge, hcycle, a, List.mem_cons_self, hreach⟩
      · rename_i hend
        exact hlater (search_acyclic (.start hsettled hfresh) hend).2 hstop

theorem searchFrom_acyclic {roots : List Int} {seen' : List Int} :
    ∀ {seen : List Int}, Settled g (· ∈ seen) → searchFrom g seen roots = .acyclic seen' →
    (∀ a ∈ seen, a ∈ seen') ∧ (∀ root ∈ roots, root ∈ seen') ∧ Settled g (· ∈ seen') := by
  induction roots with
  | nil =>
    intro seen hsettled hend
    cases hend
    exact ⟨fun a ha => ha, by simp, hsettled⟩
  | cons root roots ih =>
    intro seen hsettled hend
    rw [searchFrom] at hend
    split at hend
    · rename_i hseen
      obtain ⟨hsub, hroots, hsettled'⟩ := ih hsettled hend
      exact ⟨hsub, List.forall_mem_cons.2 ⟨hsub root hseen, hroots⟩, hsettled'⟩
    · rename_i hfresh
      split at hend
      · cases hend
      · rename_i hrun
        obtain ⟨hgrown, hsettled₁⟩ := search_acyclic (.start hsettled hfresh) hrun
        obtain ⟨hsub, hroots, hsettled'⟩ := ih hsettled₁ hend
        have hroot := hsub root (hgrown root List.mem_cons_self)
        refine ⟨fun a ha => ?_, List.forall_mem_cons.2 ⟨hroot, hroots⟩, hsettled'⟩
        exact hsub a (hgrown a (List.mem_cons_of_mem _ ha))

/-! ## The verdict -/

/-- The edge that is reported closes a cycle that can be reached from a root. -/
theorem closingEdge?_eq_some {roots : List Int} {source target : Int}
    (h : g.closingEdge? roots = some (source, target)) :
    g.Edge source target ∧ g.OnCycle target ∧ ∃ root ∈ roots, g.Reaches root target := by
  have hnothing : Settled g (· ∈ ([] : List Int)) := ⟨by simp, by simp⟩
  unfold closingEdge? at h
  split at h
  · rename_i hclosed
    cases h
    exact searchFrom_closed hnothing hclosed
  · cases h

/-- **The verdict is exact**: a cycle is found if and only if some root reaches one. -/
theorem hasCycle_iff {roots : List Int} :
    g.hasCycle roots = true ↔ ∃ root ∈ roots, ∃ a, g.Reaches root a ∧ g.OnCycle a := by
  have hnothing : Settled g (· ∈ ([] : List Int)) := ⟨by simp, by simp⟩
  rw [hasCycle, Option.isSome_iff_exists]
  constructor
  · rintro ⟨⟨source, target⟩, h⟩
    obtain ⟨_, hcycle, root, hroot, hreach⟩ := closingEdge?_eq_some h
    exact ⟨root, hroot, target, hreach, hcycle⟩
  · rintro ⟨root, hroot, a, hreach, hcycle⟩
    unfold closingEdge?
    split
    · exact ⟨_, rfl⟩
    · rename_i hend
      obtain ⟨_, hroots, hsettled⟩ := searchFrom_acyclic hnothing hend
      exact absurd hcycle (hsettled.not_reaches_cycle (hroots root hroot) hreach)

end QuestFlow.Adjacency

import QuestFlow.Graph.Adjacency

/-!
# Tables with one row for each ID

A table of edges is looked up by ID, but some functions go through its rows instead: all targets are
taken together, and the edges are turned around row by row.  Where no ID has two rows, both views
show the same edges (`exists_row_iff`).  A table that was gathered has no ID twice, and so the
targets of such a table are the IDs that some edge leads to (`mem_targets_iff`), and turning it
around turns each edge around (`edge_predecessors_iff`).
-/

namespace QuestFlow

namespace Groups

variable {κ α : Type} [DecidableEq κ]

/-- Where no key has two groups, a group that stands in the table is the one that is found. -/
theorem get_eq_of_mem {gs : Groups κ α} (hnodup : (keys gs).Nodup) {k : κ} {vs : List α}
    (hmem : (k, vs) ∈ gs) : get gs k = vs := by
  induction gs with
  | nil => cases hmem
  | cons group gs ih =>
    obtain ⟨k₁, vs₁⟩ := group
    obtain ⟨hfresh, hnodup⟩ := List.nodup_cons.1 hnodup
    rw [get_cons]
    rcases List.mem_cons.1 hmem with heq | hmem
    · cases heq
      rw [if_pos rfl]
    · have hne : k₁ ≠ k := by
        rintro rfl
        exact hfresh (List.mem_map.2 ⟨_, hmem, rfl⟩)
      rw [if_neg hne]
      exact ih hnodup hmem

/-- A group with a member stands in the table. -/
theorem mem_of_mem_get {gs : Groups κ α} {k : κ} {v : α} (hv : v ∈ get gs k) :
    (k, get gs k) ∈ gs := by
  induction gs with
  | nil => simp at hv
  | cons group gs ih =>
    obtain ⟨k₁, vs₁⟩ := group
    rw [get_cons] at hv ⊢
    split at hv
    · rename_i heq
      rw [if_pos heq, heq]
      exact List.mem_cons_self
    · rename_i hne
      rw [if_neg hne]
      exact List.mem_cons_of_mem _ (ih hv)

end Groups

namespace Adjacency

variable {g : Adjacency} {a b : Int}

/-- An edge stands in the row of its source, and the rows hold nothing but edges. -/
theorem exists_row_iff (hnodup : (Groups.keys g).Nodup) :
    (∃ targets, (a, targets) ∈ g ∧ b ∈ targets) ↔ g.Edge a b := by
  constructor
  · rintro ⟨targets, hrow, hb⟩
    show b ∈ Groups.get g a
    rw [Groups.get_eq_of_mem hnodup hrow]
    exact hb
  · intro hedge
    exact ⟨_, Groups.mem_of_mem_get hedge, hedge⟩

theorem mem_targets_iff (hnodup : (Groups.keys g).Nodup) : b ∈ g.targets ↔ ∃ a, g.Edge a b := by
  rw [targets, List.mem_flatMap]
  constructor
  · rintro ⟨⟨a, targets⟩, hrow, hb⟩
    exact ⟨a, (exists_row_iff hnodup).1 ⟨targets, hrow, hb⟩⟩
  · rintro ⟨a, hedge⟩
    obtain ⟨targets, hrow, hb⟩ := (exists_row_iff hnodup).2 hedge
    exact ⟨(a, targets), hrow, hb⟩

/-- Turning the table around turns each edge around. -/
theorem edge_predecessors_iff (hnodup : (Groups.keys g).Nodup) :
    g.predecessors.Edge b a ↔ g.Edge a b := by
  rw [← exists_row_iff hnodup]
  show a ∈ Groups.get g.predecessors b ↔ _
  rw [predecessors, Groups.get_collect, List.mem_flatMap]
  constructor
  · rintro ⟨⟨target, sources⟩, harrival, ha⟩
    obtain ⟨⟨source, targets⟩, hrow, hturned⟩ := List.mem_flatMap.1 harrival
    obtain ⟨t, ht, heq⟩ := List.mem_map.1 hturned
    cases heq
    dsimp only at ha
    split at ha
    · rename_i htarget
      obtain rfl : a = source := by simpa using ha
      exact ⟨targets, hrow, htarget ▸ ht⟩
    · exact absurd ha List.not_mem_nil
  · rintro ⟨targets, hrow, hb⟩
    refine ⟨(b, [a]), List.mem_flatMap.2 ⟨(a, targets), hrow, List.mem_map.2 ⟨b, hb, rfl⟩⟩, ?_⟩
    simp

end Adjacency
end QuestFlow

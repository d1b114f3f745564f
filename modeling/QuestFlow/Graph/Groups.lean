/-!
# Groups in order of first mention

Several tables of this library are built in the same way: values arrive one after another, each
under a key, and are gathered by key.  A group stands where its key was first mentioned, and its
members stand in the order in which they arrived.  `Groups.collect` builds such a table, and
`Groups.get` looks into it.

* `get_collect` — a group holds exactly what arrived under its key, in order;
* `mem_keys_collect` and `nodup_keys_collect` — the keys are those that were mentioned, each once.
-/

namespace QuestFlow

/-- Values gathered by key. -/
abbrev Groups (κ α : Type) := List (κ × List α)

namespace Groups

variable {κ α : Type} [DecidableEq κ]

/-- Adds values to the group of a key, opening the group at the end if there is none. -/
def add (key : κ) (values : List α) : Groups κ α → Groups κ α
  | [] => [(key, values)]
  | (k, vs) :: gs => if k = key then (k, vs ++ values) :: gs else (k, vs) :: add key values gs

/-- Gathers arrivals, each a key with values. -/
def collect (arrivals : List (κ × List α)) : Groups κ α :=
  arrivals.foldl (fun gs (key, values) => add key values gs) []

/-- The members of a group; none if there is no such group. -/
def get (gs : Groups κ α) (key : κ) : List α := (gs.lookup key).getD []

/-- The keys of all groups. -/
def keys (gs : Groups κ α) : List κ := gs.map (·.1)

/-! ## What a group holds -/

@[simp] theorem get_nil (key : κ) : get ([] : Groups κ α) key = [] := rfl

theorem get_cons (k key : κ) (vs : List α) (gs : Groups κ α) :
    get ((k, vs) :: gs) key = if k = key then vs else get gs key := by
  unfold get
  rw [List.lookup_cons]
  by_cases h : k = key
  · subst h; simp
  · have : (key == k) = false := by simp [Ne.symm h]
    simp [this, h]

/-- Adding extends the group of the key and no other. -/
theorem get_add (key k : κ) (values : List α) (gs : Groups κ α) :
    get (add key values gs) k = if key = k then get gs k ++ values else get gs k := by
  induction gs with
  | nil => by_cases h : key = k <;> simp [add, get_cons, h]
  | cons g gs ih =>
    obtain ⟨k₁, vs⟩ := g
    by_cases h₁ : k₁ = key
    · subst h₁
      by_cases h : k₁ = k <;> simp [add, get_cons, h]
    · by_cases h : k₁ = k
      · subst h
        simp [add, get_cons, h₁, Ne.symm h₁]
      · simp [add, get_cons, h₁, h, ih]

theorem get_foldl (arrivals : List (κ × List α)) (gs : Groups κ α) (k : κ) :
    get (arrivals.foldl (fun gs (key, values) => add key values gs) gs) k =
      get gs k ++ arrivals.flatMap fun (key, values) => if key = k then values else [] := by
  induction arrivals generalizing gs with
  | nil => simp
  | cons a as ih =>
    obtain ⟨key, values⟩ := a
    rw [List.foldl_cons, ih, get_add]
    by_cases h : key = k <;> simp [h]

/-- A group holds exactly what arrived under its key, in order. -/
theorem get_collect (arrivals : List (κ × List α)) (k : κ) :
    get (collect arrivals) k =
      arrivals.flatMap fun (key, values) => if key = k then values else [] := by
  simp [collect, get_foldl]

/-! ## Which groups there are -/

theorem keys_add (key : κ) (values : List α) (gs : Groups κ α) :
    keys (add key values gs) = if key ∈ keys gs then keys gs else keys gs ++ [key] := by
  induction gs with
  | nil => simp [add, keys]
  | cons g gs ih =>
    obtain ⟨k₁, vs⟩ := g
    by_cases h₁ : k₁ = key
    · subst h₁; simp [add, keys]
    · have h₂ : ¬ key = k₁ := Ne.symm h₁
      simp only [keys] at ih
      by_cases h : key ∈ gs.map (·.1)
      · simp only [h, if_true] at ih
        simp [add, keys, h₁, h₂, ih, h]
      · simp only [h, if_false] at ih
        simp [add, keys, h₁, h₂, ih, h]

/-- A key has a group exactly if it was mentioned. -/
theorem mem_keys_collect (arrivals : List (κ × List α)) (k : κ) :
    k ∈ keys (collect arrivals) ↔ k ∈ arrivals.map (·.1) := by
  suffices h : ∀ gs : Groups κ α,
      k ∈ keys (arrivals.foldl (fun gs (key, values) => add key values gs) gs) ↔
        k ∈ keys gs ∨ k ∈ arrivals.map (·.1) by
    simpa [keys, collect] using h []
  induction arrivals with
  | nil => simp
  | cons a as ih =>
    intro gs
    obtain ⟨key, values⟩ := a
    rw [List.foldl_cons, ih, keys_add]
    by_cases h : key ∈ keys gs
    · simp only [h, if_true, List.map_cons, List.mem_cons]
      constructor
      · rintro (h' | h')
        · exact .inl h'
        · exact .inr (.inr h')
      · rintro (h' | rfl | h')
        · exact .inl h'
        · exact .inl h
        · exact .inr h'
    · simp [h, or_assoc]

/-- No key has two groups. -/
theorem nodup_keys_collect (arrivals : List (κ × List α)) : (keys (collect arrivals)).Nodup := by
  suffices h : ∀ gs : Groups κ α, (keys gs).Nodup →
      (keys (arrivals.foldl (fun gs (key, values) => add key values gs) gs)).Nodup by
    exact h [] (by simp [keys])
  induction arrivals with
  | nil => exact fun _ h => h
  | cons a as ih =>
    intro gs hgs
    obtain ⟨key, values⟩ := a
    rw [List.foldl_cons]
    apply ih
    rw [keys_add]
    split
    · exact hgs
    · rename_i h
      rw [List.nodup_append]
      exact ⟨hgs, by simp, by
        intro a ha b hb
        rw [List.mem_singleton] at hb
        exact fun hab => h (hb ▸ hab ▸ ha)⟩

/-- A key without a group has no members. -/
theorem get_eq_nil_of_notMem {gs : Groups κ α} {k : κ} (h : k ∉ keys gs) : get gs k = [] := by
  induction gs with
  | nil => rfl
  | cons g gs ih =>
    obtain ⟨k₁, vs⟩ := g
    simp only [keys, List.map_cons, List.mem_cons, not_or] at h
    rw [get_cons, if_neg (Ne.symm h.1)]
    exact ih h.2

example : collect [(1, ["a"]), (2, []), (1, ["b"])] = [(1, ["a", "b"]), (2, [])] := by decide

end Groups
end QuestFlow

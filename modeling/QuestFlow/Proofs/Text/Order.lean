import QuestFlow.Path

/-!
# The order of paths is an order

Comparing lists of texts by their first difference is a total order, and so is comparing paths that
start from the same anchor.  `Path.Before` is its strict form.
-/

namespace QuestFlow

namespace Text

variable {a b c : List String}

theorem componentsLE_total (a b : List String) :
    componentsLE a b = true ∨ componentsLE b a = true := by
  induction a generalizing b with
  | nil => exact .inl rfl
  | cons x a ih =>
    cases b with
    | nil => exact .inr rfl
    | cons y b =>
      by_cases hxy : x = y
      · subst hxy
        simpa [componentsLE] using ih b
      · simp only [componentsLE, hxy, Ne.symm hxy, if_false, decide_eq_true_eq]
        exact String.le_total x y

theorem componentsLE_antisymm (hab : componentsLE a b = true) (hba : componentsLE b a = true) :
    a = b := by
  induction a generalizing b with
  | nil =>
    cases b with
    | nil => rfl
    | cons y b => simp [componentsLE] at hba
  | cons x a ih =>
    cases b with
    | nil => simp [componentsLE] at hab
    | cons y b =>
      by_cases hxy : x = y
      · subst hxy
        simp only [componentsLE, if_true] at hab hba
        rw [ih hab hba]
      · simp only [componentsLE, hxy, Ne.symm hxy, if_false, decide_eq_true_eq] at hab hba
        exact absurd (String.le_antisymm hab hba) hxy

theorem componentsLE_trans (hab : componentsLE a b = true) (hbc : componentsLE b c = true) :
    componentsLE a c = true := by
  induction a generalizing b c with
  | nil => rfl
  | cons x a ih =>
    cases b with
    | nil => simp [componentsLE] at hab
    | cons y b =>
      cases c with
      | nil => simp [componentsLE] at hbc
      | cons z c =>
        -- the first difference of the outer two is that of one of the pairs
        by_cases hxy : x = y
        · subst hxy
          by_cases hxz : x = z
          · subst hxz
            simp only [componentsLE, if_true] at hab hbc ⊢
            exact ih hab hbc
          · simpa [componentsLE, hxz] using hbc
        · by_cases hyz : y = z
          · subst hyz
            simpa [componentsLE, hxy] using hab
          · simp only [componentsLE, hxy, hyz, if_false, decide_eq_true_eq] at hab hbc
            have hxz : x ≠ z := by
              rintro rfl
              exact hxy (String.le_antisymm hab hbc)
            simp only [componentsLE, hxz, if_false, decide_eq_true_eq]
            exact String.le_trans hab hbc

end Text

namespace Path

variable {p q r : Path}

/-- Whether a path comes before another one. -/
def Before (p q : Path) : Prop := p.le q = true ∧ p ≠ q

theorem le_total (p q : Path) : (p.le q || q.le p) = true := by
  rw [Bool.or_eq_true]
  exact Text.componentsLE_total p.parts q.parts

theorem le_trans (hpq : p.le q = true) (hqr : q.le r = true) : p.le r = true :=
  Text.componentsLE_trans hpq hqr

/-- Paths are told apart by their components, if they start from the same place. -/
theorem le_antisymm (hanchor : p.anchor = q.anchor) (hpq : p.le q = true) (hqp : q.le p = true) :
    p = q := by
  have hparts : p.parts = q.parts := Text.componentsLE_antisymm hpq hqp
  cases p
  cases q
  cases hanchor
  cases hparts
  rfl

/-- Paths in rising order. -/
theorem pairwise_mergeSort (ps : List Path) :
    (ps.mergeSort le).Pairwise fun p q => p.le q = true := by
  have htrans : ∀ p q r : Path, p.le q = true → q.le r = true → p.le r = true :=
    fun _ _ _ hpq hqr => le_trans hpq hqr
  exact List.pairwise_mergeSort htrans le_total ps

/-- Distinct paths are sorted into strictly rising order. -/
theorem pairwise_before_mergeSort {ps : List Path} (hdistinct : ps.Nodup) :
    (ps.mergeSort le).Pairwise Before := by
  have hnodup : (ps.mergeSort le).Nodup := (List.mergeSort_perm ps le).nodup_iff.2 hdistinct
  exact (pairwise_mergeSort ps).and hnodup

/-- Rising lists of paths with one anchor and the same members are the same list. -/
theorem eq_of_pairwise_before {anchor : Anchor} {ps qs : List Path} (hps : ps.Pairwise Before)
    (hqs : qs.Pairwise Before) (hanchor : ∀ p ∈ ps, p.anchor = anchor)
    (hmem : ∀ p, p ∈ ps ↔ p ∈ qs) : ps = qs := by
  have hperm : ps.Perm qs := by
    rw [List.perm_ext_iff_of_nodup (hps.imp fun h => h.2) (hqs.imp fun h => h.2)]
    exact hmem
  refine List.Perm.eq_of_pairwise ?_ hps hqs hperm
  intro p q hp hq hpq hqp
  refine le_antisymm ?_ hpq.1 hqp.1
  rw [hanchor p hp, hanchor q ((hmem q).2 hq)]

end Path
end QuestFlow

import QuestFlow.Proofs.Rule.Silence

/-!
# Led to by a list, and led to by an edge

Two rules ask whether a node is led to.  `incoming` counts every edge list of the document,
`referenced` only the edges of the graph, and a stray list is the one thing that can set them apart.
`Quest.ledCompared` says how far, for every quest, also where nodes share an ID or an edge leads
back or into nothing.

1. **Places** — a finding names an ID, and nodes may share it, so the rules are compared by the
   places of the nodes they report (`flatMap_findIf`).
2. **Targets** — what the rules gather as targets is what the edge lists of the nodes hold: all of
   them (`mem_declaredTargets_iff`), or only the legal ones (`mem_targets_graph_iff`).
3. **No stray lists** — the crux of the last part: each variant has its own rule that reports its
   stray lists, so where the three rules are silent there are none (`strayFields_eq_nil`).
-/

namespace QuestFlow

variable {q : Quest}

namespace Quest

/-! ## The places of nodes -/

/-- The places in the document of the nodes that pass a test, counted from zero. -/
def placesOf (q : Quest) (test : Node → Bool) : List Nat :=
  (List.range q.nodes.length).filter fun i => q.nodes[i]?.any test

theorem mem_placesOf_iff {test : Node → Bool} {i : Nat} :
    i ∈ q.placesOf test ↔ ∃ n, q.nodes[i]? = some n ∧ test n = true := by
  rw [placesOf, List.mem_filter, List.mem_range, Option.any_eq_true]
  constructor
  · rintro ⟨-, hpasses⟩
    exact hpasses
  · rintro ⟨n, hn, hpasses⟩
    have hlt : i < q.nodes.length := (List.getElem?_eq_some_iff.1 hn).1
    exact ⟨hlt, n, hn, hpasses⟩

theorem pairwise_placesOf (q : Quest) (test : Node → Bool) :
    (q.placesOf test).Pairwise (· < ·) :=
  List.pairwise_lt_range.filter _

/-- A stronger test leaves some of the places out. -/
theorem placesOf_sublist {test test' : Node → Bool}
    (hstronger : ∀ n ∈ q.nodes, test n = true → test' n = true) :
    (q.placesOf test).Sublist (q.placesOf test') := by
  have hboth : q.placesOf test = (q.placesOf test').filter fun i => q.nodes[i]?.any test := by
    rw [placesOf, placesOf, List.filter_filter]
    refine List.filter_congr fun i _ => ?_
    cases hn : q.nodes[i]? with
    | none => rfl
    | some n =>
      have hstronger := hstronger n (List.mem_of_getElem? hn)
      cases htest : test n with
      | false => simp [htest]
      | true => simp [htest, hstronger htest]
  rw [hboth]
  exact List.filter_sublist

/-- What is found at each node by a test is found at the places of the nodes that pass it. -/
theorem flatMap_findIf (q : Quest) (test : Node → Bool) (p : Problem) :
    q.nodes.flatMap (fun n => n.findIf (test n) p) =
      (q.placesOf test).map fun i => ⟨p, q.nodeIds[i]?⟩ := by
  rw [placesOf, nodeIds]
  induction q.nodes with
  | nil => rfl
  | cons n nodes ih =>
    -- behind the first node every place is one further on
    rw [List.flatMap_cons, ih, List.length_cons, List.range_succ_eq_map, List.filter_cons,
      List.filter_map, Node.findIf]
    cases htest : test n <;> simp [htest, Function.comp_def]

/-! ## Targets -/

/-- An edge list that its node may have leads to the ID. -/
def LegalTarget (q : Quest) (id : Int) : Prop :=
  ∃ n ∈ q.nodes, ∃ field ∈ n.legalFields, id ∈ field.targets

/-- An edge list that its node should not have leads to the ID. -/
def StrayTarget (q : Quest) (id : Int) : Prop :=
  ∃ n ∈ q.nodes, ∃ field ∈ n.strayFields, id ∈ field.targets

theorem mem_declaredTargets_iff {id : Int} :
    id ∈ q.nodes.flatMap (·.declaredTargets) ↔ q.LegalTarget id ∨ q.StrayTarget id := by
  simp only [List.mem_flatMap, Node.declaredTargets, Node.declaredFields, List.mem_append,
    LegalTarget, StrayTarget]
  constructor
  · rintro ⟨n, hn, field, hlegal | hstray, hid⟩
    · exact .inl ⟨n, hn, field, hlegal, hid⟩
    · exact .inr ⟨n, hn, field, hstray, hid⟩
  · rintro (⟨n, hn, field, hlegal, hid⟩ | ⟨n, hn, field, hstray, hid⟩)
    · exact ⟨n, hn, field, .inl hlegal, hid⟩
    · exact ⟨n, hn, field, .inr hstray, hid⟩

/-- Nodes that share an ID share a row of the table, and no target is lost by that. -/
theorem mem_targets_graph_iff {id : Int} : id ∈ q.graph.targets ↔ q.LegalTarget id := by
  rw [mem_targets_graph]
  constructor
  · rintro ⟨a, n, hn, -, hid⟩
    exact ⟨n, hn, List.mem_flatMap.1 hid⟩
  · rintro ⟨n, hn, hid⟩
    exact ⟨n.id, n, hn, rfl, List.mem_flatMap.2 hid⟩

end Quest

namespace Findings

open Quest

theorem filledField_eq_nil_iff {label : EdgeLabel} {targets : List Int} :
    filledField label targets = [] ↔ targets = [] := by
  cases targets <;> simp [filledField]

/-- **No stray lists**: whatever its variant, some rule about shapes reports each stray list. -/
theorem strayFields_eq_nil (hdecisions : decisions q = []) (hbranches : conditionBranches q = [])
    (hflat : flatNodes q = []) : ∀ n ∈ q.nodes, n.strayFields = [] := by
  intro n hn
  have hdecision := List.flatMap_eq_nil_iff.1 hdecisions n hn
  have hbranch := List.flatMap_eq_nil_iff.1 hbranches n hn
  have hflat := List.flatMap_eq_nil_iff.1 hflat n hn
  rw [Node.strayFields]
  cases hbody : n.body with
  | entryPoint | actions | dialog | questProgress =>
    rw [hbody] at hflat
    exact List.map_eq_nil_iff.1 hflat
  | decision type speech options strayNext =>
    simp only [hbody, List.append_eq_nil_iff, Node.findIf_eq_nil_iff] at hdecision
    have hnone : strayNext = [] := by simpa using hdecision.1
    exact filledField_eq_nil_iff.2 hnone
  | conditionBranch required ifTrue ifFalse strayNext =>
    simp only [hbody, List.append_eq_nil_iff, Node.findIf_eq_nil_iff] at hbranch
    have hnone : strayNext = [] := by simpa using hbranch.1.1
    exact filledField_eq_nil_iff.2 hnone
  | unmodelled => rfl

/-- Whether no edge list of the document leads to a node that needs one. -/
def isUnled (q : Quest) (n : Node) : Bool :=
  !n.isEntryPoint && !(q.nodes.flatMap (·.declaredTargets)).contains n.id

/-- Whether no edge of the graph leads to a node that needs one. -/
def isUnreferenced (q : Quest) (n : Node) : Bool :=
  !n.isEntryPoint && !q.graph.targets.contains n.id

theorem isUnled_iff {n : Node} : isUnled q n = true ↔
    n.isEntryPoint = false ∧ ¬ q.LegalTarget n.id ∧ ¬ q.StrayTarget n.id := by
  simp only [isUnled, Bool.and_eq_true, Bool.not_eq_true', ← Bool.not_eq_true,
    List.contains_iff_mem, mem_declaredTargets_iff, not_or]

theorem isUnreferenced_iff {n : Node} : isUnreferenced q n = true ↔
    n.isEntryPoint = false ∧ ¬ q.LegalTarget n.id := by
  simp only [isUnreferenced, Bool.and_eq_true, Bool.not_eq_true', ← Bool.not_eq_true,
    List.contains_iff_mem, mem_targets_graph_iff]

end Findings

namespace Quest

open Findings

/-! ## The comparison -/

/-- How the two rules compare that ask whether a node is led to: by the places of the nodes that the
one and the other report. -/
structure LedCompared (q : Quest) (unled unreferenced : List Nat) : Prop where
  /-- one finding for each place -/
  incoming_eq : incoming q = unled.map fun i => ⟨.noIncoming, q.nodeIds[i]?⟩
  referenced_eq : referenced q = unreferenced.map fun i => ⟨.unreferenced, q.nodeIds[i]?⟩
  /-- in document order, and no place twice -/
  rising : unreferenced.Pairwise (· < ·)
  mem_unled_iff : ∀ i, i ∈ unled ↔ ∃ n, q.nodes[i]? = some n ∧ n.isEntryPoint = false ∧
    ¬ q.LegalTarget n.id ∧ ¬ q.StrayTarget n.id
  mem_unreferenced_iff : ∀ i, i ∈ unreferenced ↔ ∃ n, q.nodes[i]? = some n ∧
    n.isEntryPoint = false ∧ ¬ q.LegalTarget n.id
  /-- a node that no list leads to is no target in the graph either -/
  sublist : unled.Sublist unreferenced
  /-- what sets the rules apart: nodes that only stray lists lead to -/
  apart_iff : ∀ i, i ∈ unreferenced ∧ i ∉ unled ↔ ∃ n, q.nodes[i]? = some n ∧
    n.isEntryPoint = false ∧ q.StrayTarget n.id ∧ ¬ q.LegalTarget n.id
  /-- the rules agree where the rules about shapes have nothing to report -/
  agree : decisions q = [] → conditionBranches q = [] → flatNodes q = [] → unled = unreferenced

/-- **The two rules differ by stray lists alone.** -/
theorem ledCompared (q : Quest) : ∃ unled unreferenced, q.LedCompared unled unreferenced := by
  have hmem_unled : ∀ i, i ∈ q.placesOf (isUnled q) ↔ ∃ n, q.nodes[i]? = some n ∧
      n.isEntryPoint = false ∧ ¬ q.LegalTarget n.id ∧ ¬ q.StrayTarget n.id := by
    intro i
    simp only [mem_placesOf_iff, isUnled_iff]
  have hmem_unreferenced : ∀ i, i ∈ q.placesOf (isUnreferenced q) ↔ ∃ n, q.nodes[i]? = some n ∧
      n.isEntryPoint = false ∧ ¬ q.LegalTarget n.id := by
    intro i
    simp only [mem_placesOf_iff, isUnreferenced_iff]
  refine ⟨q.placesOf (isUnled q), q.placesOf (isUnreferenced q), {
    incoming_eq := q.flatMap_findIf (isUnled q) .noIncoming
    referenced_eq := q.flatMap_findIf (isUnreferenced q) .unreferenced
    rising := q.pairwise_placesOf _
    mem_unled_iff := hmem_unled
    mem_unreferenced_iff := hmem_unreferenced
    sublist := ?_
    apart_iff := ?_
    agree := ?_ }⟩
  · refine placesOf_sublist fun n _ hunled => ?_
    obtain ⟨hentry, hlegal, -⟩ := isUnled_iff.1 hunled
    exact isUnreferenced_iff.2 ⟨hentry, hlegal⟩
  · intro i
    rw [hmem_unreferenced, hmem_unled]
    constructor
    · rintro ⟨⟨n, hn, hentry, hlegal⟩, hled⟩
      have hstray : q.StrayTarget n.id := by
        by_contra hstray
        exact hled ⟨n, hn, hentry, hlegal, hstray⟩
      exact ⟨n, hn, hentry, hstray, hlegal⟩
    · rintro ⟨n, hn, hentry, hstray, hlegal⟩
      refine ⟨⟨n, hn, hentry, hlegal⟩, ?_⟩
      rintro ⟨m, hm, -, -, hnone⟩
      obtain rfl : n = m := Option.some.inj (hn.symm.trans hm)
      exact hnone hstray
  · intro hdecisions hbranches hflat
    have hnone : ∀ id, ¬ q.StrayTarget id := by
      rintro id ⟨n, hn, field, hfield, -⟩
      rw [strayFields_eq_nil hdecisions hbranches hflat n hn] at hfield
      exact List.not_mem_nil hfield
    have hsame : isUnled q = isUnreferenced q := by
      funext n
      rw [Bool.eq_iff_iff, isUnled_iff, isUnreferenced_iff]
      exact and_congr_right fun _ => and_iff_left (hnone n.id)
    rw [hsame]

end Quest
end QuestFlow

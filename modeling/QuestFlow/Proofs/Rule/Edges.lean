import Mathlib.Data.Finset.Card
import QuestFlow.Proofs.Quest.DocumentEdges
import QuestFlow.Proofs.Rule.Silence

/-!
# What is wrong with an edge, and where

The rule about edges goes through the nodes of a quest, the edge lists of each node and the targets
of each list, and remembers the targets that it has seen.  Nothing of this shows in what is said
here: what is reported for a target depends on its place alone.

1. **Edge lists** — `Node.listUnder` tells which list a node has under a label, variant by variant
   and without regard to what the variant allows.  The declared lists are these, each under a label
   of its own (`Node.listsDeclared`).
2. **What was seen** — the crux: along a list, the remembered targets are those at the earlier
   places of the same list (`repeats_eq_map_zipIdx`), so each list starts anew.
3. **Counting** — a list has as many repeats as it has targets more than different ones
   (`countP_repeats`).
4. **The report** — `edgesChecked` has all places in their order, and what is reported at each.
-/

namespace QuestFlow

/-! ## Edge lists -/

/-- No two options have the same label. -/
theorem nodup_labels_optionFields (os : List DialogOption) :
    ((optionFields os).map (·.label)).Nodup := by
  have hnumbers : (optionFields os).map (·.label) =
      (List.range' 1 os.length).map EdgeLabel.option := by
    rw [optionFields, optionFieldsFrom_eq_map_zipIdx, List.map_map, ← List.zipIdx_map_snd 1 os,
      List.map_map]
    rfl
  rw [hnumbers]
  have hdistinct : Function.Injective EdgeLabel.option := by
    rintro i j ⟨⟩
    rfl
  exact List.Nodup.map hdistinct List.nodup_range'

theorem labels_filledField_sublist (label : EdgeLabel) (targets : List Int) :
    ((filledField label targets).map (·.label)).Sublist [label] := by
  cases targets <;> simp [filledField]

/-- A stray list of a flat node is one that has an edge. -/
theorem FlatEdges.mem_strayFields_iff {e : FlatEdges} {field : EdgeField} :
    field ∈ e.strayFields ↔
      (field = ⟨.ifTrue, e.strayIfTrue.getD []⟩ ∨ field = ⟨.ifFalse, e.strayIfFalse.getD []⟩ ∨
        field ∈ optionFields (e.strayOptions.getD [])) ∧ field.targets ≠ [] := by
  have hfilled : ∀ {label targets}, field ∈ filledField label targets ↔
      field = ⟨label, targets⟩ ∧ field.targets ≠ [] := by
    intro label targets
    rw [mem_filledField_iff]
    refine and_congr_right fun hfield => ?_
    rw [hfield]
  rw [strayFields, List.mem_append, List.mem_append, hfilled, hfilled, List.mem_filter, or_assoc,
    Bool.not_eq_true', List.isEmpty_eq_false_iff, ← or_and_right, ← or_and_right]

namespace Node

/-- The edge list that a node has under a label, whether or not its variant allows it there; empty
if it has none. -/
def listUnder (n : Node) : EdgeLabel → List Int
  | .next => match n.body with
    | .entryPoint e | .actions e _ | .dialog e _ _ | .questProgress e _ => e.next
    | .decision _ _ _ strayNext | .conditionBranch _ _ _ strayNext => strayNext
    | .unmodelled _ next _ _ _ => next
  | .ifTrue => match n.body with
    | .entryPoint e | .actions e _ | .dialog e _ _ | .questProgress e _ => e.strayIfTrue.getD []
    | .decision .. => []
    | .conditionBranch _ ifTrue _ _ | .unmodelled _ _ ifTrue _ _ => ifTrue
  | .ifFalse => match n.body with
    | .entryPoint e | .actions e _ | .dialog e _ _ | .questProgress e _ => e.strayIfFalse.getD []
    | .decision .. => []
    | .conditionBranch _ _ ifFalse _ | .unmodelled _ _ _ ifFalse _ => ifFalse
  | .option 0 => []
  | .option (i + 1) => (n.declaredOptions[i]?.map (·.next)).getD []

/-- The declared edge lists of a node are the lists that it has. -/
structure ListsDeclared (n : Node) : Prop where
  /-- no label has two lists -/
  labels : (n.declaredFields.map (·.label)).Nodup
  targets_eq : ∀ field ∈ n.declaredFields, field.targets = n.listUnder field.label
  /-- no list with an edge is left out -/
  of_ne_nil : ∀ label, n.listUnder label ≠ [] → ⟨label, n.listUnder label⟩ ∈ n.declaredFields

theorem nodup_labels_declaredFields (n : Node) : (n.declaredFields.map (·.label)).Nodup := by
  have hoptions : ∀ os : List DialogOption,
      (([EdgeLabel.next, .ifTrue, .ifFalse] ++ (optionFields os).map (·.label))).Nodup := by
    intro os
    refine List.nodup_append'.2 ⟨by decide, nodup_labels_optionFields os, ?_⟩
    intro label hflat hoption
    obtain ⟨field, hfield, rfl⟩ := List.mem_map.1 hoption
    obtain ⟨i, o, -, rfl⟩ := mem_optionFields_iff.1 hfield
    simp at hflat
  have hflat : ∀ e : FlatEdges,
      ((⟨.next, e.next⟩ :: e.strayFields : List EdgeField).map (·.label)).Nodup := by
    intro e
    refine (hoptions (e.strayOptions.getD [])).sublist ?_
    rw [FlatEdges.strayFields, List.map_cons, List.map_append, List.map_append]
    exact (((labels_filledField_sublist _ _).append (labels_filledField_sublist _ _)).append
      (List.filter_sublist.map _)).cons_cons _
  rw [declaredFields, legalFields, strayFields]
  cases n.body with
  | entryPoint e | actions e _ | dialog e _ _ | questProgress e _ => exact hflat e
  | decision type speech options strayNext =>
    have hnext : ((optionFields options).map (·.label) ++ [EdgeLabel.next]).Nodup :=
      (List.nodup_append_comm.1 (hoptions options)).sublist
        ((List.Sublist.refl _).append (by decide))
    refine hnext.sublist ?_
    rw [List.map_append]
    exact (List.Sublist.refl _).append (labels_filledField_sublist _ _)
  | conditionBranch required ifTrue ifFalse strayNext =>
    have hall : [EdgeLabel.ifTrue, .ifFalse, .next].Nodup := by decide
    refine hall.sublist ?_
    rw [List.map_append]
    exact (List.Sublist.refl [EdgeLabel.ifTrue, .ifFalse]).append (labels_filledField_sublist _ _)
  | unmodelled type next ifTrue ifFalse options =>
    refine (hoptions options).sublist ?_
    rw [Body.strayFields, List.append_nil, Body.legalFields, List.map_cons, List.map_append,
      List.map_append]
    exact (((labels_filledField_sublist _ _).append (labels_filledField_sublist _ _)).append
      (List.Sublist.refl _)).cons_cons _

theorem listUnder_option {n : Node} {i : Nat} {o : DialogOption}
    (ho : n.declaredOptions[i]? = some o) : n.listUnder (.option (i + 1)) = o.next := by
  rw [listUnder, ho]
  rfl

/-- The list of an option is the one under its label, if the node has no other options. -/
theorem targets_of_mem_optionFields {n : Node} {os : List DialogOption}
    (hos : n.declaredOptions = os) {field : EdgeField} (hfield : field ∈ optionFields os) :
    field.targets = n.listUnder field.label := by
  obtain ⟨i, o, ho, rfl⟩ := mem_optionFields_iff.1 hfield
  exact (listUnder_option (hos ▸ ho)).symm

theorem targets_of_mem_declaredFields {n : Node} {field : EdgeField}
    (hfield : field ∈ n.declaredFields) : field.targets = n.listUnder field.label := by
  obtain ⟨id, conditions, body, extra⟩ := n
  rcases List.mem_append.1 hfield with hfield | hfield
  · cases body with
    | entryPoint | actions | dialog | questProgress =>
      obtain rfl := List.mem_singleton.1 hfield
      rfl
    | decision => exact targets_of_mem_optionFields (List.append_nil _) hfield
    | conditionBranch =>
      rcases List.mem_pair.1 hfield with rfl | rfl
      · rfl
      · rfl
    | unmodelled =>
      rcases List.mem_cons.1 hfield with rfl | hfield
      · rfl
      · rcases List.mem_append.1 hfield with hfilled | hoption
        · rcases List.mem_append.1 hfilled with htrue | hfalse
          · obtain ⟨rfl, -⟩ := mem_filledField_iff.1 htrue
            rfl
          · obtain ⟨rfl, -⟩ := mem_filledField_iff.1 hfalse
            rfl
        · exact targets_of_mem_optionFields (List.append_nil _) hoption
  · cases body with
    | entryPoint | actions | dialog | questProgress =>
      obtain ⟨rfl | rfl | hoption, -⟩ := FlatEdges.mem_strayFields_iff.1 hfield
      · rfl
      · rfl
      · exact targets_of_mem_optionFields (List.nil_append _) hoption
    | decision | conditionBranch =>
      obtain ⟨rfl, -⟩ := mem_filledField_iff.1 hfield
      rfl
    | unmodelled => cases hfield

theorem mem_optionFields_of_ne_nil {n : Node} {os : List DialogOption}
    (hos : n.declaredOptions = os) {number : Nat} (hne : n.listUnder (.option number) ≠ []) :
    ⟨.option number, n.listUnder (.option number)⟩ ∈ optionFields os := by
  cases number with
  | zero => exact absurd rfl hne
  | succ i =>
    cases ho : n.declaredOptions[i]? with
    | none =>
      rw [listUnder, ho] at hne
      exact absurd rfl hne
    | some o => exact mem_optionFields_iff.2 ⟨i, o, hos ▸ ho, by rw [listUnder_option ho]⟩

theorem mem_declaredFields_of_ne_nil {n : Node} {label : EdgeLabel}
    (hne : n.listUnder label ≠ []) : ⟨label, n.listUnder label⟩ ∈ n.declaredFields := by
  obtain ⟨id, conditions, body, extra⟩ := n
  refine List.mem_append.2 ?_
  cases label with
  | next =>
    cases body with
    | entryPoint | actions | dialog | questProgress => exact .inl (List.mem_singleton_self _)
    | decision | conditionBranch => exact .inr (mem_filledField_iff.2 ⟨rfl, hne⟩)
    | unmodelled => exact .inl List.mem_cons_self
  | ifTrue =>
    cases body with
    | entryPoint | actions | dialog | questProgress =>
      exact .inr (FlatEdges.mem_strayFields_iff.2 ⟨.inl rfl, hne⟩)
    | decision => exact absurd rfl hne
    | conditionBranch => exact .inl List.mem_cons_self
    | unmodelled =>
      refine .inl (List.mem_cons_of_mem _ (List.mem_append_left _ ?_))
      exact List.mem_append_left _ (mem_filledField_iff.2 ⟨rfl, hne⟩)
  | ifFalse =>
    cases body with
    | entryPoint | actions | dialog | questProgress =>
      exact .inr (FlatEdges.mem_strayFields_iff.2 ⟨.inr (.inl rfl), hne⟩)
    | decision => exact absurd rfl hne
    | conditionBranch => exact .inl (List.mem_cons_of_mem _ List.mem_cons_self)
    | unmodelled =>
      refine .inl (List.mem_cons_of_mem _ (List.mem_append_left _ ?_))
      exact List.mem_append_right _ (mem_filledField_iff.2 ⟨rfl, hne⟩)
  | option number =>
    cases body with
    | entryPoint | actions | dialog | questProgress =>
      have hoption := mem_optionFields_of_ne_nil (List.nil_append _) hne
      exact .inr (FlatEdges.mem_strayFields_iff.2 ⟨.inr (.inr hoption), hne⟩)
    | decision => exact .inl (mem_optionFields_of_ne_nil (List.append_nil _) hne)
    | conditionBranch => cases mem_optionFields_of_ne_nil (List.append_nil _) hne
    | unmodelled =>
      have hoption := mem_optionFields_of_ne_nil (List.append_nil _) hne
      exact .inl (List.mem_cons_of_mem _ (List.mem_append_right _ hoption))

theorem listsDeclared (n : Node) : n.ListsDeclared where
  labels := n.nodup_labels_declaredFields
  targets_eq _ hfield := targets_of_mem_declaredFields hfield
  of_ne_nil _ hne := mem_declaredFields_of_ne_nil hne

end Node

/-! ## What was seen -/

/-- Whether the problem is that a list has a target twice. -/
def Problem.isRepeatedEdge : Problem → Bool
  | .repeatedEdge .. => true
  | _ => false

namespace Findings

section Repeats

variable {α : Type} [DecidableEq α]

/-- The members seen are those in front, so a member is flagged where it stands earlier on. -/
theorem repeats_eq_map_zipIdx {before seen : List α} (hseen : ∀ x, x ∈ seen ↔ x ∈ before)
    (xs : List α) :
    repeats seen xs = (xs.zipIdx before.length).map fun (x, i) =>
      (x, decide (x ∈ (before ++ xs).take i)) := by
  induction xs generalizing before seen with
  | nil => rfl
  | cons x xs ih =>
    have hnext : ∀ y, y ∈ x :: seen ↔ y ∈ before ++ [x] := by
      intro y
      rw [List.mem_cons, List.mem_append, List.mem_singleton, hseen, or_comm]
    have htail := ih hnext
    rw [List.append_assoc, List.singleton_append, List.length_append,
      List.length_singleton] at htail
    rw [repeats, htail, List.zipIdx_cons, List.map_cons]
    simp only [List.take_left, hseen]

theorem repeats_nil_eq_map_zipIdx (xs : List α) :
    repeats [] xs = xs.zipIdx.map fun (x, i) => (x, decide (x ∈ xs.take i)) := by
  have hnone : ∀ x : α, x ∈ [] ↔ x ∈ [] := fun _ => Iff.rfl
  exact repeats_eq_map_zipIdx hnone xs

/-- A list has as many repeats as it has members more than different ones, not counting those seen
before. -/
theorem countP_repeats (seen xs : List α) :
    (repeats seen xs).countP (·.2) + (xs.toFinset \ seen.toFinset).card = xs.length := by
  induction xs generalizing seen with
  | nil => simp [repeats]
  | cons x xs ih =>
    have htail := ih (x :: seen)
    rw [repeats, List.countP_cons, List.length_cons, ← htail, List.toFinset_cons,
      List.toFinset_cons]
    by_cases hx : x ∈ seen
    · have hsame : insert x seen.toFinset = seen.toFinset :=
        Finset.insert_eq_self.2 (List.mem_toFinset.2 hx)
      rw [hsame, Finset.insert_sdiff_of_mem _ (List.mem_toFinset.2 hx), if_pos (by simpa using hx)]
      omega
    · have hnew : insert x xs.toFinset \ seen.toFinset =
          insert x (xs.toFinset \ insert x seen.toFinset) := by
        rw [Finset.insert_sdiff_of_notMem _ (by simpa using hx)]
        ext y
        by_cases hy : y = x <;> simp [hy]
      rw [hnew, Finset.card_insert_of_notMem (by simp), if_neg (by simpa using hx)]
      omega

end Repeats

/-! ## The report -/

/-- The problems of the target at a place of an edge list. -/
def problemsAt (q : Quest) (n : Node) (field : EdgeField) (place : Int × Nat) : List Problem :=
  targetProblems q.nodeIds n.id field.label place.1
    (decide (place.1 ∈ field.targets.take place.2))

/-- What is reported for a target, by its place in an edge list of a node. -/
structure TargetJudged (q : Quest) (n : Node) (field : EdgeField) (i : Nat) (target : Int)
    (problems : List Problem) : Prop where
  missing_iff : .missingTarget field.label target ∈ problems ↔ ∀ m ∈ q.nodes, m.id ≠ target
  self_iff : .selfEdge field.label ∈ problems ↔ target = n.id
  /-- the same list has the target at an earlier place -/
  repeated_iff : .repeatedEdge field.label target ∈ problems ↔
    ∃ j < i, field.targets[j]? = some target
  /-- each at most once, in this order, and nothing else -/
  order : problems.Sublist
    [.missingTarget field.label target, .selfEdge field.label, .repeatedEdge field.label target]

theorem edges_eq_flatMap_problemsAt (q : Quest) :
    edges q = q.nodes.flatMap fun n => n.declaredFields.flatMap fun field =>
      field.targets.zipIdx.flatMap fun place =>
        (problemsAt q n field place).map fun p => ⟨p, some n.id⟩ := by
  refine List.flatMap_congr fun n _ => List.flatMap_congr fun field _ => ?_
  rw [repeats_nil_eq_map_zipIdx, List.flatMap_map]
  rfl

/-- What has one mark for each flagged member has as many as there are flagged members. -/
theorem countP_flatMap_of_flag {β γ : Type} {flag : β → Bool} {marks : γ → Bool} {f : β → List γ}
    (h : ∀ x, (f x).countP marks = if flag x then 1 else 0) (xs : List β) :
    (xs.flatMap f).countP marks = xs.countP flag := by
  induction xs with
  | nil => rfl
  | cons x xs ih =>
    rw [List.flatMap_cons, List.countP_append, ih, h, List.countP_cons, Nat.add_comm]

theorem countP_isRepeatedEdge (q : Quest) (n : Node) (field : EdgeField) :
    (field.targets.zipIdx.flatMap (problemsAt q n field)).countP (·.isRepeatedEdge) +
      field.targets.toFinset.card = field.targets.length := by
  have hflag : ∀ place : Int × Nat,
      (problemsAt q n field place).countP (·.isRepeatedEdge) =
        if decide (place.1 ∈ field.targets.take place.2) then 1 else 0 := by
    intro place
    rw [problemsAt, targetProblems, List.countP_append, List.countP_append]
    split_ifs <;> rfl
  have hcount := countP_repeats [] field.targets
  rw [repeats_nil_eq_map_zipIdx, List.countP_map] at hcount
  rw [countP_flatMap_of_flag hflag]
  simpa [Function.comp_def] using hcount

theorem mem_take_iff {α : Type} {xs : List α} {i : Nat} {x : α} :
    x ∈ xs.take i ↔ ∃ j < i, xs[j]? = some x := by
  rw [List.mem_iff_getElem?]
  refine exists_congr fun j => ?_
  rw [List.getElem?_take]
  split <;> simp_all

theorem targetJudged (q : Quest) (n : Node) (field : EdgeField) (i : Nat) (target : Int) :
    TargetJudged q n field i target (problemsAt q n field (target, i)) where
  missing_iff := by
    simp [problemsAt, targetProblems, Quest.nodeIds]
  self_iff := by
    simp [problemsAt, targetProblems]
  repeated_iff := by
    rw [← mem_take_iff]
    simp [problemsAt, targetProblems]
  order := by
    have hsingle : ∀ (holds : Prop) [Decidable holds] (p : Problem),
        (if holds then [p] else []).Sublist [p] := by
      intro holds _ p
      split <;> simp
    rw [problemsAt, targetProblems, ← ite_not]
    exact ((hsingle _ _).append (hsingle _ _)).append (hsingle _ _)

/-- What the rule about edges reports. -/
structure EdgesChecked (q : Quest) : Prop where
  /-- the declared edge lists of a node are those that it has -/
  lists : ∀ n ∈ q.nodes, n.ListsDeclared
  /-- nodes, edge lists and places in their order -/
  edges_eq : edges q = q.nodes.flatMap fun n => n.declaredFields.flatMap fun field =>
    field.targets.zipIdx.flatMap fun place =>
      (problemsAt q n field place).map fun p => ⟨p, some n.id⟩
  /-- at each place: whether the target is missing, the node itself, or repeated -/
  judged : ∀ n ∈ q.nodes, ∀ field ∈ n.declaredFields, ∀ i target,
    field.targets[i]? = some target →
      TargetJudged q n field i target (problemsAt q n field (target, i))
  /-- a list has as many repeats as it has targets more than different ones -/
  repeats : ∀ n ∈ q.nodes, ∀ field ∈ n.declaredFields,
    (field.targets.zipIdx.flatMap (problemsAt q n field)).countP (·.isRepeatedEdge) =
      field.targets.length - field.targets.toFinset.card
  /-- what other lists have is no repeat -/
  apart : ∀ n ∈ q.nodes, ∀ field ∈ n.declaredFields, field.targets.Nodup →
    ∀ p ∈ field.targets.zipIdx.flatMap (problemsAt q n field), p.isRepeatedEdge = false
  /-- nothing is reported just where each list leads to other nodes that exist, to each once -/
  silent_iff : edges q = [] ↔ ∀ n ∈ q.nodes, ∀ field ∈ n.declaredFields,
    field.targets.Nodup ∧ ∀ target ∈ field.targets, target ≠ n.id ∧ ∃ m ∈ q.nodes, m.id = target

/-- **Each edge is judged by its place**, in the order of the document. -/
theorem edgesChecked (q : Quest) : EdgesChecked q where
  lists n _ := n.listsDeclared
  edges_eq := edges_eq_flatMap_problemsAt q
  judged n _ field _ i target _ := targetJudged q n field i target
  repeats n _ field _ := by
    have hcount := countP_isRepeatedEdge q n field
    omega
  apart := by
    intro n _ field _ hnodup p hp
    have hcount := countP_isRepeatedEdge q n field
    rw [List.toFinset_card_of_nodup hnodup] at hcount
    have hnone : (field.targets.zipIdx.flatMap (problemsAt q n field)).countP
        (·.isRepeatedEdge) = 0 := by omega
    exact Bool.eq_false_of_not_eq_true (List.countP_eq_zero.1 hnone p hp)
  silent_iff := by
    rw [edges_eq_nil_iff]
    refine forall₄_congr fun n _ field _ => and_congr_right fun _ => ?_
    refine forall₂_congr fun target _ => ?_
    rw [Quest.mem_nodeIds, and_comm]

example : edges { id := "Q1", nodes := [⟨1, [], .unmodelled "Gate" [1, 2, 2] [] [3] [], []⟩,
      ⟨3, [], .entryPoint {}, []⟩] } =
    [⟨.selfEdge .next, some 1⟩, ⟨.missingTarget .next 2, some 1⟩, ⟨.missingTarget .next 2, some 1⟩,
      ⟨.repeatedEdge .next 2, some 1⟩] := by
  decide

end Findings
end QuestFlow

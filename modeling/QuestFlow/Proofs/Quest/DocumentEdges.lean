import Mathlib.Data.List.Flatten
import Mathlib.Data.List.Nodup
import Mathlib.Data.List.Perm.Subperm
import QuestFlow.Proofs.Quest.Reading

/-!
# Which edge lists of a document its node declares

A document can give a node edge lists in four places: under `NextNodes`, `NextNodesIfTrue` and
`NextNodesIfFalse`, and under `NextNodes` in each member of `Options`.  The variant of the node
takes some of them as legal and keeps others as stray, and the rules look at those two sorts alone.
A list that is neither has become a left-over entry, and no rule ever sees it.

1. **What the document gives** is asked of the value, before anything is read: `Value.edgeList?` is
   the list under a label, if it is a list of node IDs, and `Value.edgeLists` are all of them.

2. **What the node declares.**  `Node.Declares` says that nothing of it is lost: each list that is
   not empty is legal or stray under its own label, each target counts as often as it was written,
   and the options are all there.

3. **What a variant overlooks.**  Two variants have no field for some of the lists
   (`Variant.overlooks`): a decision for those of a branch, a branch for options.  All other lists
   are taken, variant by variant (`Body.edgesFrom_of_read`).

4. **The result** is exact: a node declares what its document gives just when the document gives
   nothing that the variant overlooks.
-/

namespace QuestFlow

variable {doc : Value} {es : Entries} {label : EdgeLabel} {ts : List Int}

/-! ## What the document gives -/

namespace Value

/-- The node IDs that a mapping lists under a key, if it has a list of node IDs there. -/
def targetsUnder (key : String) (doc : Value) : Option (List Int) :=
  (doc.field? key).bind fun v => (readTargets v).value?

/-- The members of the list under `Options`. -/
def optionItems (doc : Value) : List Value :=
  match doc.field? "Options" with
  | some (.list items) => items
  | _ => []

/-- The edge list that a node document gives under a label. -/
def edgeList? (doc : Value) : EdgeLabel → Option (List Int)
  | .next => doc.targetsUnder "NextNodes"
  | .ifTrue => doc.targetsUnder "NextNodesIfTrue"
  | .ifFalse => doc.targetsUnder "NextNodesIfFalse"
  | .option 0 => none
  | .option (i + 1) => doc.optionItems[i]?.bind (targetsUnder "NextNodes")

/-- The labels under which a node document can have an edge list. -/
def edgeLabels (doc : Value) : List EdgeLabel :=
  [.next, .ifTrue, .ifFalse] ++
    (List.range doc.optionItems.length).map fun i => EdgeLabel.option (i + 1)

/-- All edge lists of a node document. -/
def edgeLists (doc : Value) : List EdgeField :=
  doc.edgeLabels.filterMap fun label => (doc.edgeList? label).map (EdgeField.mk label)

/-- The members of the list under `Options` that are options. -/
def optionsGiven (doc : Value) : List DialogOption :=
  doc.optionItems.filterMap fun v => (DialogOption.read v).value?

/-- A label under which there is a list is one of the labels. -/
theorem mem_edgeLabels_of_edgeList? (hgiven : doc.edgeList? label = some ts) :
    label ∈ doc.edgeLabels := by
  cases label with
  | option number =>
    cases number with
    | zero => cases hgiven
    | succ i =>
      obtain ⟨item, hitem, -⟩ := Option.bind_eq_some_iff.1 hgiven
      obtain ⟨hi, -⟩ := List.getElem?_eq_some_iff.1 hitem
      refine List.mem_append_right _ (List.mem_map.2 ⟨i, List.mem_range.2 hi, rfl⟩)
  | _ => simp [edgeLabels]

theorem mem_edgeLists_iff : EdgeField.mk label ts ∈ doc.edgeLists ↔
    doc.edgeList? label = some ts := by
  rw [edgeLists, List.mem_filterMap]
  constructor
  · rintro ⟨l, -, hl⟩
    obtain ⟨us, hus, heq⟩ := Option.map_eq_some_iff.1 hl
    cases heq
    exact hus
  · intro hgiven
    exact ⟨label, mem_edgeLabels_of_edgeList? hgiven, by rw [hgiven]; rfl⟩

/-- No label occurs twice, so no list does. -/
theorem nodup_edgeLists (doc : Value) : doc.edgeLists.Nodup := by
  have hlabels : doc.edgeLabels.Nodup := by
    -- the three flat labels, those of the options, and none that is both
    refine List.nodup_append'.2 ⟨by decide, ?_, ?_⟩
    · refine List.Nodup.map ?_ List.nodup_range
      intro i j hij
      cases hij
      rfl
    · intro label hflat hoption
      obtain ⟨i, -, rfl⟩ := List.mem_map.1 hoption
      simp at hflat
  -- a list shows which label it came from
  refine hlabels.filterMap ?_
  intro l l' f hf hf'
  obtain ⟨us, -, rfl⟩ := Option.map_eq_some_iff.1 hf
  obtain ⟨us', -, heq⟩ := Option.map_eq_some_iff.1 hf'
  cases heq
  rfl

end Value

/-- Nothing that the document gives is lost on the way to the node. -/
structure Node.Declares (n : Node) (doc : Value) : Prop where
  /-- each list with a target is legal or stray, under its own label -/
  lists : ∀ f ∈ doc.edgeLists, f.targets ≠ [] → f ∈ n.legalFields ∨ f ∈ n.strayFields
  /-- each target is among those declared, as often as all lists together have it -/
  targets : (doc.edgeLists.flatMap (·.targets)).Subperm n.declaredTargets
  /-- the options are among those declared, in their order -/
  options : doc.optionsGiven.Sublist n.declaredOptions

/-- A list without a target adds none. -/
theorem flatMap_targets_filter (fs : List EdgeField) :
    (fs.filter fun f => !f.targets.isEmpty).flatMap (·.targets) = fs.flatMap (·.targets) := by
  induction fs with
  | nil => rfl
  | cons f fs ih => cases hf : f.targets <;> simp [hf, ih]

/-- If each list is kept, so is each target: lists with different labels are kept side by side. -/
theorem Node.Declares.of_lists {n : Node}
    (hlists : ∀ f ∈ doc.edgeLists, f.targets ≠ [] → f ∈ n.declaredFields)
    (hoptions : doc.optionsGiven.Sublist n.declaredOptions) : n.Declares doc where
  lists := by
    intro f hf hne
    exact List.mem_append.1 (hlists f hf hne)
  options := hoptions
  targets := by
    have hfilled : (doc.edgeLists.filter fun f => !f.targets.isEmpty).Subperm n.declaredFields := by
      refine ((Value.nodup_edgeLists doc).filter _).subperm ?_
      intro f hf
      obtain ⟨hmem, hne⟩ := List.mem_filter.1 hf
      exact hlists f hmem (by simpa using hne)
    obtain ⟨fs, hperm, hsub⟩ := hfilled
    rw [← flatMap_targets_filter]
    exact ⟨fs.flatMap (·.targets), hperm.flatMap_right _, hsub.flatMap _⟩

/-! ## What reading keeps -/

namespace Value

theorem targetsUnder_mapping_iff {key : String} : targetsUnder key (.mapping es) = some ts ↔
    ∃ v, lookup key es = some v ∧ readTargets v = .ok ts := by
  rw [targetsUnder, Option.bind_eq_some_iff]
  refine exists_congr fun v => and_congr_right fun _ => ?_
  cases readTargets v <;> simp [Checked.value?]

end Value

namespace Spelled

variable {s : Spelled}

/-- A list under the label is what the field holds. -/
theorem optional_targets {us : List Int} (hread : s.optional readTargets [] es = .ok us)
    (hgiven : Value.targetsUnder s.label (.mapping es) = some ts) : us = ts := by
  obtain ⟨v, hv, hts⟩ := Value.targetsUnder_mapping_iff.1 hgiven
  have hus : readTargets v = .ok us := optional_of_lookup hv hread
  rw [hts] at hus
  cases hus
  rfl

theorem optional_nullable_targets {us : Option (List Int)}
    (hread : s.optional (Value.readNullable readTargets) none es = .ok us)
    (hgiven : Value.targetsUnder s.label (.mapping es) = some ts) : us = some ts := by
  obtain ⟨v, hv, hts⟩ := Value.targetsUnder_mapping_iff.1 hgiven
  refine Value.readNullable_of_ok ?_ hts (optional_of_lookup hv hread)
  rintro rfl
  cases hts

end Spelled

/-- An option holds the list that its mapping gives. -/
theorem DialogOption.next_of_read {v : Value} {o : DialogOption} (hread : read v = .ok o)
    (hgiven : v.targetsUnder "NextNodes" = some ts) : o.next = ts := by
  obtain ⟨es, rfl, -, -, hnext, -⟩ := read_eq_ok_iff.1 hread
  exact Spelled.optional_targets hnext hgiven

/-- The edge list of an option, numbered from the given number on, is that of its place. -/
theorem optionFieldsFrom_eq_map_zipIdx (number : Nat) (os : List DialogOption) :
    optionFieldsFrom number os =
      (os.zipIdx number).map fun place => ⟨.option place.2, place.1.next⟩ := by
  induction os generalizing number with
  | nil => rfl
  | cons o os ih => rw [optionFieldsFrom, List.zipIdx_cons, List.map_cons, ih]

theorem mem_optionFields_iff {os : List DialogOption} {field : EdgeField} :
    field ∈ optionFields os ↔
      ∃ i o, os[i]? = some o ∧ field = ⟨.option (i + 1), o.next⟩ := by
  rw [optionFields, optionFieldsFrom_eq_map_zipIdx, List.mem_map]
  constructor
  · rintro ⟨⟨o, k⟩, hplace, rfl⟩
    obtain ⟨hle, ho⟩ := List.mk_mem_zipIdx_iff_le_and_getElem?_sub.1 hplace
    exact ⟨k - 1, o, ho, by rw [Nat.sub_add_cancel hle]⟩
  · rintro ⟨i, o, ho, rfl⟩
    refine ⟨(o, i + 1), List.mk_mem_zipIdx_iff_le_and_getElem?_sub.2 ⟨Nat.le_add_left 1 i, ?_⟩, rfl⟩
    rwa [Nat.add_sub_cancel]

/-- What the document has under `Options` has been read as these options, if it has anything there.
-/
def Value.ReadAsOptions (doc : Value) (os : List DialogOption) : Prop :=
  doc.optionItems = [] ∨
    List.Forall₂ (fun v o => DialogOption.read v = .ok o) doc.optionItems os

namespace Value.ReadAsOptions

variable {os : List DialogOption}

theorem of_list {v : Value} (hv : doc.field? "Options" = some v) (hread : readOptions v = .ok os) :
    doc.ReadAsOptions os := by
  obtain ⟨items, rfl, hitems⟩ := readList_eq_ok_iff.1 hread
  right
  rw [optionItems, hv]
  exact hitems

theorem of_lookup_eq_none (hv : lookup "Options" es = none) : (mapping es).ReadAsOptions os := by
  left
  simp [optionItems, field?, hv]

theorem of_optional {s : Spelled} (hs : s.label = "Options")
    (hread : s.optional readOptions [] es = .ok os) : (mapping es).ReadAsOptions os := by
  cases hv : lookup s.label es with
  | none => exact of_lookup_eq_none (hs ▸ hv)
  | some v => exact of_list (hs ▸ hv) (Spelled.optional_of_lookup hv hread)

theorem of_optional_nullable {s : Spelled} {os? : Option (List DialogOption)}
    (hs : s.label = "Options")
    (hread : s.optional (readNullable readOptions) none es = .ok os?) :
    (mapping es).ReadAsOptions (os?.getD []) := by
  cases hv : lookup s.label es with
  | none => exact of_lookup_eq_none (hs ▸ hv)
  | some v =>
    have hread : readNullable readOptions v = .ok os? := Spelled.optional_of_lookup hv hread
    rw [hs] at hv
    cases v with
    | null =>
      -- null is read as no options at all, and there is no list to lose
      left
      simp [optionItems, field?, hv]
    | list items =>
      obtain ⟨os, hos, rfl⟩ := Checked.map_eq_ok_iff.1 hread
      exact of_list hv hos
    | _ => cases hread

/-- The list of an option is there under the number of the option. -/
theorem mem_optionFields {i : Nat} (hread : doc.ReadAsOptions os)
    (hgiven : doc.edgeList? (.option i) = some ts) : ⟨.option i, ts⟩ ∈ optionFields os := by
  cases i with
  | zero => cases hgiven
  | succ i =>
    obtain ⟨item, hitem, hts⟩ := Option.bind_eq_some_iff.1 hgiven
    obtain ⟨hi, rfl⟩ := List.getElem?_eq_some_iff.1 hitem
    rcases hread with hnone | hread
    · rw [hnone] at hi
      cases hi
    · obtain ⟨hlength, hall⟩ := List.forall₂_iff_get.1 hread
      have ho : os[i]? = some os[i] := List.getElem?_eq_getElem (hlength ▸ hi)
      have hnext : os[i].next = ts := DialogOption.next_of_read (hall i hi (hlength ▸ hi)) hts
      exact mem_optionFields_iff.2 ⟨i, os[i], ho, by rw [hnext]⟩

/-- The options given are the options read, unless none are given. -/
theorem optionsGiven_sublist (hread : doc.ReadAsOptions os) : doc.optionsGiven.Sublist os := by
  rw [optionsGiven]
  rcases hread with hnone | hread
  · rw [hnone]
    exact List.nil_sublist os
  · generalize doc.optionItems = items at hread ⊢
    induction hread with
    | nil => exact List.Sublist.refl []
    | cons ho _ ih =>
      rw [List.filterMap_cons, ho]
      exact ih.cons_cons _

end Value.ReadAsOptions

/-! ## What the variants take -/

theorem mem_filledField_iff {label : EdgeLabel} {targets : List Int} {field : EdgeField} :
    field ∈ filledField label targets ↔ field = ⟨label, targets⟩ ∧ targets ≠ [] := by
  cases targets <;> simp [filledField]

theorem mem_filledField {us : List Int} (hus : us = ts) (hne : ts ≠ []) :
    EdgeField.mk label ts ∈ filledField label us := by
  subst hus
  exact mem_filledField_iff.2 ⟨rfl, hne⟩

/-- A flat body takes every list: one as its own, and the others as stray. -/
theorem FlatEdges.mem_of_read {e : FlatEdges} (hread : FlatEdges.read es = .ok e)
    (hgiven : (Value.mapping es).edgeList? label = some ts) (hne : ts ≠ []) :
    EdgeField.mk label ts ∈ ⟨.next, e.next⟩ :: e.strayFields := by
  obtain ⟨hnext, htrue, hfalse, hoptions⟩ := FlatEdges.read_eq_ok_iff.1 hread
  simp only [strayFields, List.mem_cons, List.mem_append]
  cases label with
  | next => exact .inl (by rw [Spelled.optional_targets hnext hgiven])
  | ifTrue =>
    have h : e.strayIfTrue = some ts := Spelled.optional_nullable_targets htrue hgiven
    exact .inr (.inl (.inl (mem_filledField (by rw [h]; rfl) hne)))
  | ifFalse =>
    have h : e.strayIfFalse = some ts := Spelled.optional_nullable_targets hfalse hgiven
    exact .inr (.inl (.inr (mem_filledField (by rw [h]; rfl) hne)))
  | option i =>
    have h := Value.ReadAsOptions.of_optional_nullable rfl hoptions
    exact .inr (.inr (List.mem_filter.2 ⟨h.mem_optionFields hgiven, by simpa using hne⟩))

namespace Body

variable {variant : Variant} {b : Body}

/-- The edges of a body have been read from these entries. -/
def EdgesFrom (es : Entries) : Body → Prop
  | .entryPoint e | .actions e _ | .dialog e _ _ | .questProgress e _ => FlatEdges.read es = .ok e
  | .decision _ _ options strayNext =>
    optionsField.optional readOptions [] es = .ok options ∧
      strayNextField.optional readTargets [] es = .ok strayNext
  | .conditionBranch _ ifTrue ifFalse strayNext =>
    ifTrueField.optional readTargets [] es = .ok ifTrue ∧
      ifFalseField.optional readTargets [] es = .ok ifFalse ∧
      strayNextField.optional readTargets [] es = .ok strayNext
  | .unmodelled _ next ifTrue ifFalse options =>
    nextField.optional readTargets [] es = .ok next ∧
      ifTrueField.optional readTargets [] es = .ok ifTrue ∧
      ifFalseField.optional readTargets [] es = .ok ifFalse ∧
      optionsField.optional readOptions [] es = .ok options

/-- Whatever a body is read as, its edges come from the entries. -/
theorem edgesFrom_of_read (hread : Body.read variant es = .ok b) : b.EdgesFrom es := by
  obtain ⟨-, -, hparts⟩ := read_eq_ok_iff.1 hread
  cases b with
  | entryPoint | unmodelled => exact hparts
  | actions | dialog | questProgress => exact hparts.1
  | decision | conditionBranch => exact hparts.2

end Body

/-! ## What the variants overlook -/

/-- Whether a variant has no field for the list under a label, so that the list is left over. -/
def Variant.overlooks : Variant → EdgeLabel → Bool
  | .decision, .ifTrue | .decision, .ifFalse | .conditionBranch, .option _ => true
  | _, _ => false

/-- The document gives nothing that the variant overlooks. -/
structure Variant.Covers (variant : Variant) (doc : Value) : Prop where
  lists : ∀ label ts, variant.overlooks label = true → doc.edgeList? label = some ts → ts = []
  options : variant = .conditionBranch → doc.optionsGiven = []

namespace Body

variable {b : Body}

/-- A list that is not overlooked is legal or stray. -/
theorem mem_of_edgesFrom (hedges : b.EdgesFrom es) (hkept : b.variant.overlooks label = false)
    (hgiven : (Value.mapping es).edgeList? label = some ts) (hne : ts ≠ []) :
    EdgeField.mk label ts ∈ b.legalFields ++ b.strayFields := by
  cases b with
  | entryPoint e | actions e | dialog e | questProgress e =>
    exact FlatEdges.mem_of_read hedges hgiven hne
  | decision _ _ options strayNext =>
    obtain ⟨hoptions, hnext⟩ := hedges
    cases label with
    | next =>
      have h : strayNext = ts := Spelled.optional_targets hnext hgiven
      exact List.mem_append_right _ (mem_filledField h hne)
    | option i =>
      have h := Value.ReadAsOptions.of_optional rfl hoptions
      exact List.mem_append_left _ (h.mem_optionFields hgiven)
    | _ => cases hkept
  | conditionBranch _ ifTrue ifFalse strayNext =>
    obtain ⟨htrue, hfalse, hnext⟩ := hedges
    cases label with
    | next =>
      have h : strayNext = ts := Spelled.optional_targets hnext hgiven
      exact List.mem_append_right _ (mem_filledField h hne)
    | ifTrue =>
      have h : ifTrue = ts := Spelled.optional_targets htrue hgiven
      simp [legalFields, h]
    | ifFalse =>
      have h : ifFalse = ts := Spelled.optional_targets hfalse hgiven
      simp [legalFields, h]
    | option i => cases hkept
  | unmodelled _ next ifTrue ifFalse options =>
    obtain ⟨hnext, htrue, hfalse, hoptions⟩ := hedges
    simp only [legalFields, strayFields, List.append_nil, List.mem_cons, List.mem_append]
    cases label with
    | next => exact .inl (by rw [Spelled.optional_targets hnext hgiven])
    | ifTrue =>
      have h : ifTrue = ts := Spelled.optional_targets htrue hgiven
      exact .inr (.inl (.inl (mem_filledField h hne)))
    | ifFalse =>
      have h : ifFalse = ts := Spelled.optional_targets hfalse hgiven
      exact .inr (.inl (.inr (mem_filledField h hne)))
    | option i =>
      have h := Value.ReadAsOptions.of_optional rfl hoptions
      exact .inr (.inr (h.mem_optionFields hgiven))

/-- What is legal or stray has a label that the variant does not overlook. -/
theorem overlooks_label_eq_false {f : EdgeField} (hf : f ∈ b.legalFields ++ b.strayFields) :
    b.variant.overlooks f.label = false := by
  cases b with
  | decision _ _ options strayNext =>
    rcases List.mem_append.1 hf with hf | hf
    · obtain ⟨i, o, -, rfl⟩ := mem_optionFields_iff.1 hf
      rfl
    · obtain ⟨rfl, -⟩ := mem_filledField_iff.1 hf
      rfl
  | conditionBranch _ ifTrue ifFalse strayNext =>
    rcases List.mem_append.1 hf with hf | hf
    · rcases List.mem_pair.1 hf with rfl | rfl <;> rfl
    · obtain ⟨rfl, -⟩ := mem_filledField_iff.1 hf
      rfl
  | _ => rfl

/-- The options given are among the legal and the stray ones, unless they are overlooked. -/
theorem optionsGiven_sublist (hedges : b.EdgesFrom es) (hvariant : b.variant ≠ .conditionBranch) :
    (Value.mapping es).optionsGiven.Sublist (b.options ++ b.strayOptions) := by
  cases b with
  | entryPoint e | actions e | dialog e | questProgress e =>
    obtain ⟨-, -, -, hoptions⟩ := FlatEdges.read_eq_ok_iff.1 hedges
    exact (Value.ReadAsOptions.of_optional_nullable rfl hoptions).optionsGiven_sublist
  | decision =>
    obtain ⟨hoptions, -⟩ := hedges
    have h := Value.ReadAsOptions.of_optional rfl hoptions
    exact h.optionsGiven_sublist.trans (List.sublist_append_left _ _)
  | unmodelled =>
    obtain ⟨-, -, -, hoptions⟩ := hedges
    have h := Value.ReadAsOptions.of_optional rfl hoptions
    exact h.optionsGiven_sublist.trans (List.sublist_append_left _ _)
  | conditionBranch => exact absurd rfl hvariant

end Body

namespace Node

variable {n : Node}

/-- Only a mapping is read as a node, and its body comes from the entries. -/
theorem edgesFrom_of_read (hread : Node.read doc = .ok n) :
    ∃ es, doc = .mapping es ∧ n.body.EdgesFrom es := by
  obtain ⟨es, t, rfl, -, hentries⟩ := read_eq_ok_iff.1 hread
  obtain ⟨-, -, hbody, -⟩ := readEntries_eq_ok_iff.1 hentries
  exact ⟨es, rfl, Body.edgesFrom_of_read hbody⟩

/-- **The exact condition**: a node declares all edges and options that its document gives, just
when the document gives none that the variant overlooks. -/
theorem declares_iff_covers (hread : Node.read doc = .ok n) :
    n.Declares doc ↔ n.variant.Covers doc := by
  obtain ⟨es, rfl, hedges⟩ := edgesFrom_of_read hread
  constructor
  · intro hdeclares
    refine ⟨?_, ?_⟩
    · -- an overlooked list that is declared would be legal or stray after all
      intro label ts hover hgiven
      by_contra hne
      have hmem := hdeclares.lists _ (Value.mem_edgeLists_iff.2 hgiven) hne
      have hkept : n.variant.overlooks label = false :=
        Body.overlooks_label_eq_false (List.mem_append.2 hmem)
      rw [hover] at hkept
      cases hkept
    · intro hbranch
      have hnone : n.declaredOptions = [] := by
        obtain ⟨_, _, body, _⟩ := n
        cases body <;> first | rfl | cases hbranch
      have hoptions := hdeclares.options
      rw [hnone] at hoptions
      exact List.sublist_nil.1 hoptions
  · intro hcovers
    refine Declares.of_lists ?_ ?_
    · intro f hf hne
      have hgiven := Value.mem_edgeLists_iff.1 hf
      cases hover : n.variant.overlooks f.label with
      | false => exact Body.mem_of_edgesFrom hedges hover hgiven hne
      | true => exact absurd (hcovers.lists _ _ hover hgiven) hne
    · by_cases hbranch : n.variant = .conditionBranch
      · rw [hcovers.options hbranch]
        exact List.nil_sublist _
      · exact Body.optionsGiven_sublist hedges hbranch

end Node

/-- A list of actions that also has edge lists of a branch and of a decision. -/
def strayActions : Value :=
  .ofFields [("NodeID", .int 1), ("NodeType", .text "Actions"), ("NextNodes", .ofInts [2, 3]),
    ("NextNodesIfTrue", .ofInts [3]),
    ("Options", .list [.ofFields [("NextNodes", .ofInts [2, 2])]])]

theorem strayActions_declares : ∃ n, Node.read strayActions = .ok n ∧
    n.declaredTargets = [2, 3, 3, 2, 2] ∧ n.Declares strayActions := by
  refine ⟨_, rfl, rfl, (Node.declares_iff_covers rfl).2 ⟨?_, ?_⟩⟩
  · intro label ts hover
    cases hover
  · intro hbranch
    cases hbranch

/-- A decision that also has a list of a branch. -/
def branchingDecision : Value :=
  .ofFields [("NodeID", .int 1), ("NodeType", .text "Decision"),
    ("NextNodesIfTrue", .ofInts [2])]

/-- The list becomes a left-over entry: it is given, and yet nothing is declared. -/
theorem branchingDecision_not_declares : ∃ n, Node.read branchingDecision = .ok n ∧
    branchingDecision.edgeLists = [⟨.ifTrue, [2]⟩] ∧ n.declaredTargets = [] ∧
    ¬ n.Declares branchingDecision := by
  refine ⟨_, rfl, rfl, rfl, ?_⟩
  intro hdeclares
  have htargets : List.Subperm [2] ([] : List Int) := hdeclares.targets
  exact List.cons_ne_nil _ _ (List.subperm_nil.1 htargets)

end QuestFlow

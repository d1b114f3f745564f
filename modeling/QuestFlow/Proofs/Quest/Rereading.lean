import QuestFlow.Proofs.Quest.Identifier
import QuestFlow.Proofs.Quest.Tidy
import QuestFlow.Proofs.Quest.Writing

/-!
# Reading a written document again

A quest that was read from a document and is written has a document of its own.  Is that one read as
the same quest, and written as the same document once more?

One accident prevents it, and nothing else: a record that has a null under the label of a field and
a value under its plain name (`MasksNull`).  The label holds the field, so the value is left over;
the null is not written but the value is, and in the written document it has become the field.

1. **One field.**  `Rereads` says that a reader understands what a writer writes, and gives the same
   value without left-over nulls.  A field of the written record is then read as before
   (`Rewritten.required`, `Rewritten.optional`, `Rewritten.nullable`).
2. **One record**, for each sort from the innermost outwards.  Localized texts, messages and options
   have no field that may be null, so they are always read again (`rereads_localized` and so on);
   for nodes and quests it is assumed that they mask no null (`Node.read_write`,
   `Quest.readEntries_dump`).
3. **The exact condition** (`Quest.stable_iff`).  For the other direction suppose that the written
   document were written as itself again.  Then so would be each record in it
   (`Value.HasRecord.writtenAs_self`), and that of a masked null cannot be.
-/

namespace QuestFlow

variable {α : Type} {read : Value → Checked α} {write : α → Value} {clean : α → α} {es : Entries}
  {f : Spelled}

/-! ## One field -/

/-- A reader that reads what a writer writes, up to what `clean` drops. -/
structure Rereads (read : Value → Checked α) (write : α → Value) (clean : α → α) : Prop where
  ne_null : ∀ a, write a ≠ .null
  again : ∀ v a, read v = .ok a → read (write a) = .ok (clean a)

theorem rereads_text : Rereads Value.readText .text id := ⟨nofun, fun _ _ _ => rfl⟩

theorem rereads_int : Rereads Value.readInt .int id := ⟨nofun, fun _ _ _ => rfl⟩

/-- A list is read again if its members are. -/
theorem Value.readList_write {as : List α} (h : ∀ a ∈ as, read (write a) = .ok (clean a)) :
    Value.readList read (.list (as.map write)) = .ok (as.map clean) := by
  refine Value.readList_eq_ok_iff.2 ⟨_, rfl, ?_⟩
  rw [List.forall₂_map_left_iff, List.forall₂_map_right_iff, List.forall₂_same]
  exact h

theorem Rereads.list (h : Rereads read write clean) :
    Rereads (Value.readList read) (fun as => .list (as.map write)) (List.map clean) where
  ne_null := nofun
  again v as hread := by
    obtain ⟨vs, rfl, hvs⟩ := Value.readList_eq_ok_iff.1 hread
    refine Value.readList_write fun a ha => ?_
    obtain ⟨v, -, hv⟩ := exists_mem_of_forall₂ hvs.flip ha
    exact h.again v a hv

theorem rereads_targets : Rereads readTargets .ofInts id := by
  have h := rereads_int.list
  rwa [List.map_id_fun] at h

theorem rereads_texts : Rereads (Value.readList Value.readText) .ofTexts id := by
  have h := rereads_text.list
  rwa [List.map_id_fun] at h

theorem rereads_conditions : Rereads readConditions writeConditions id where
  ne_null := nofun
  again v cs hread := by
    have hraw : writeConditions cs = v := eq_list_of_readList (fun _ => rfl) hread
    rw [hraw]
    exact hread

theorem rereads_actions : Rereads readActions writeActions id where
  ne_null := nofun
  again v as hread := by
    have hraw : writeActions as = v := eq_list_of_readList (fun _ => rfl) hread
    rw [hraw]
    exact hread

theorem rereads_questId : Rereads Quest.readId .text id where
  ne_null := nofun
  again v id hread := by
    have hsame : v = .text id := (Quest.readId_eq_ok_iff.1 hread).1
    rw [← hsame]
    exact hread

namespace Rewritten

variable {fields : List Spelled} {ws : Fields} {extra : Extra}

/-- A field that is written is read from what is written for it. -/
theorem optional_of_mem (h : Rewritten fields es ws extra) {w : Value} (hw : (f.label, w) ∈ ws)
    (hne : w ≠ .null) {fallback a : α} (hread : read w = .ok a) :
    f.optional read fallback (dumpOf ws extra) = .ok a :=
  Spelled.optional_eq_ok_iff.2 (.inl ⟨_, _, h.find_of_ne hw hne, hread⟩)

theorem required (h : Rewritten fields es ws extra) (hagain : Rereads read write clean) {a : α}
    (hw : (f.label, write a) ∈ ws) (hread : f.required read es = .ok a) :
    f.required read (dumpOf ws extra) = .ok (clean a) := by
  obtain ⟨n, v, -, hv⟩ := Spelled.required_eq_ok_iff.1 hread
  have hfind := h.find_of_ne hw (hagain.ne_null a)
  exact Spelled.required_eq_ok_iff.2 ⟨_, _, hfind, hagain.again v a hv⟩

theorem optional (h : Rewritten fields es ws extra) (hagain : Rereads read write clean)
    {fallback a : α} (hfallback : ∃ v, read v = .ok fallback)
    (hw : (f.label, write a) ∈ ws) (hread : f.optional read fallback es = .ok a) :
    f.optional read fallback (dumpOf ws extra) = .ok (clean a) := by
  obtain ⟨v, hv⟩ := Spelled.exists_read_of_optional hread hfallback
  exact h.optional_of_mem hw (hagain.ne_null a) (hagain.again v a hv)

/-- A field that may be null needs that no null is masked. -/
theorem nullable (h : Rewritten fields es ws extra) (hmask : ¬ MasksNull fields es)
    (hagain : Rereads read write clean) {a : Option α} (hf : f ∈ fields)
    (hw : (f.label, writeNullable write a) ∈ ws)
    (hread : f.optional (Value.readNullable read) none es = .ok a) :
    f.optional (Value.readNullable read) none (dumpOf ws extra) = .ok (a.map clean) := by
  cases a with
  | none => exact Spelled.optional_eq_ok_iff.2 (.inr ⟨h.find_of_null hmask hf hw, rfl⟩)
  | some x =>
    -- a value is written and found again, whatever the plain name stands over
    have hne : write x ≠ .null := hagain.ne_null x
    obtain ⟨v, hv⟩ := Spelled.exists_read_of_nullable hread
    refine h.optional_of_mem hw hne (Value.readNullable_eq_ok_iff.2 (.inr ⟨hne, ?_⟩))
    exact ⟨_, hagain.again v x hv, rfl⟩

theorem nullable_plain (h : Rewritten fields es ws extra) (hmask : ¬ MasksNull fields es)
    (hagain : Rereads read write id) {a : Option α} (hf : f ∈ fields)
    (hw : (f.label, writeNullable write a) ∈ ws)
    (hread : f.optional (Value.readNullable read) none es = .ok a) :
    f.optional (Value.readNullable read) none (dumpOf ws extra) = .ok a := by
  have ha := h.nullable hmask hagain hf hw hread
  rwa [Option.map_id_fun] at ha

end Rewritten

/-! ## Records whose fields may not be null -/

/-- Where nothing is written as null, no null is masked. -/
theorem RecordWritten.not_masksNull {sort : RecordSort} {ws : Fields} {extra : Extra}
    (h : RecordWritten sort es ws extra) (hne : ∀ e ∈ ws, e.2 ≠ .null) :
    ¬ MasksNull (sort.fields es) es := by
  rintro ⟨f, hf, hlabel, -⟩
  obtain ⟨w, hw⟩ := h.rewritten.exists_mem hf
  exact hne _ hw ((h.rewritten.null_iff f hf w hw _ _ (Spelled.find_of_lookup hlabel)).2 rfl)

theorem rereads_localized : Rereads Localized.read (·.write .dropped) Localized.tidy where
  ne_null := nofun
  again v t hread := by
    obtain ⟨es, rfl, henglish, hgerman, hextra⟩ := Localized.read_eq_ok_iff.1 hread
    have hwritten := Localized.recordWritten hread
    have h := hwritten.rewritten
    refine Localized.read_eq_ok_iff.2 ⟨_, rfl, ?_, ?_, ?_⟩
    · exact h.optional rereads_text ⟨.text "", rfl⟩ (List.mem_of_getElem? (i := 0) rfl) henglish
    · exact h.optional rereads_text ⟨.text "", rfl⟩ (List.mem_of_getElem? (i := 1) rfl) hgerman
    · exact h.leftOver_dump (hwritten.not_masksNull (by simp))

theorem rereads_message : Rereads DialogMessage.read (·.write .dropped) DialogMessage.tidy where
  ne_null := nofun
  again v m hread := by
    obtain ⟨es, rfl, hspeaker, htext, hextra⟩ := DialogMessage.read_eq_ok_iff.1 hread
    have hwritten := DialogMessage.recordWritten hread
    have h := hwritten.rewritten
    refine DialogMessage.read_eq_ok_iff.2 ⟨_, rfl, ?_, ?_, ?_⟩
    · exact h.optional rereads_text ⟨.text "", rfl⟩ (List.mem_of_getElem? (i := 0) rfl) hspeaker
    · exact h.optional rereads_localized ⟨.mapping [], rfl⟩
        (List.mem_of_getElem? (i := 1) rfl) htext
    · exact h.leftOver_dump (hwritten.not_masksNull (by simp [rereads_localized.ne_null]))

theorem rereads_option : Rereads DialogOption.read (·.write .dropped) DialogOption.tidy where
  ne_null := nofun
  again v o hread := by
    obtain ⟨es, rfl, htext, hconditions, hnext, hextra⟩ := DialogOption.read_eq_ok_iff.1 hread
    have hwritten := DialogOption.recordWritten hread
    have h := hwritten.rewritten
    refine DialogOption.read_eq_ok_iff.2 ⟨_, rfl, ?_, ?_, ?_, ?_⟩
    · exact h.optional rereads_localized ⟨.mapping [], rfl⟩
        (List.mem_of_getElem? (i := 0) rfl) htext
    · exact h.optional rereads_conditions ⟨.list [], rfl⟩
        (List.mem_of_getElem? (i := 1) rfl) hconditions
    · exact h.optional rereads_targets ⟨.list [], rfl⟩ (List.mem_of_getElem? (i := 2) rfl) hnext
    · exact h.leftOver_dump (hwritten.not_masksNull (by
        simp [rereads_localized.ne_null, rereads_conditions.ne_null, rereads_targets.ne_null]))

/-! ## Nodes -/

section Bodies

variable {fields : List Spelled} {ws : Fields} {extra : Extra}

theorem FlatEdges.read_dump (h : Rewritten fields es ws extra) (hmask : ¬ MasksNull fields es)
    {e : FlatEdges} (hfields : FlatEdges.fields ⊆ fields) (hws : e.entries .dropped ⊆ ws)
    (hread : FlatEdges.read es = .ok e) : FlatEdges.read (dumpOf ws extra) = .ok e.tidy := by
  obtain ⟨hnext, htrue, hfalse, hoptions⟩ := FlatEdges.read_eq_ok_iff.1 hread
  simp only [FlatEdges.fields, List.cons_subset] at hfields
  obtain ⟨-, hftrue, hffalse, hfoptions, -⟩ := hfields
  refine FlatEdges.read_eq_ok_iff.2 ⟨?_, ?_, ?_, ?_⟩
  · exact h.optional rereads_targets ⟨.list [], rfl⟩ (hws (List.mem_of_getElem? (i := 0) rfl)) hnext
  · exact h.nullable_plain hmask rereads_targets hftrue
      (hws (List.mem_of_getElem? (i := 1) rfl)) htrue
  · exact h.nullable_plain hmask rereads_targets hffalse
      (hws (List.mem_of_getElem? (i := 2) rfl)) hfalse
  · exact h.nullable hmask rereads_option.list hfoptions
      (hws (List.mem_of_getElem? (i := 3) rfl)) hoptions

theorem Speech.read_dump (h : Rewritten fields es ws extra) (hmask : ¬ MasksNull fields es)
    {s : Speech} (hfields : Speech.fields ⊆ fields) (hws : s.entries .dropped ⊆ ws)
    (hread : Speech.read es = .ok s) : Speech.read (dumpOf ws extra) = .ok s.tidy := by
  obtain ⟨hpartner, hspeaker, htext⟩ := Speech.read_eq_ok_iff.1 hread
  have hftext : textField ∈ fields := hfields (by simp [Speech.fields])
  refine Speech.read_eq_ok_iff.2 ⟨?_, ?_, ?_⟩
  · exact h.optional rereads_text ⟨.text "", rfl⟩ (hws (List.mem_of_getElem? (i := 0) rfl)) hpartner
  · exact h.optional rereads_text ⟨.text "", rfl⟩ (hws (List.mem_of_getElem? (i := 1) rfl)) hspeaker
  · exact h.nullable hmask rereads_localized hftext (hws (List.mem_of_getElem? (i := 2) rfl)) htext

/-- The type of a variant that has only one is read as such. -/
theorem readOnlyType_of_typeOf? {variant : Variant}
    (htype : Node.typeOf? (.mapping es) = some variant.tag) :
    readOnlyType variant es = .ok variant.tag := by
  obtain ⟨n, hfind⟩ := Node.typeOf?_eq_some_iff.1 htype
  refine Spelled.optional_eq_ok_iff.2 (.inl ⟨_, _, hfind, ?_⟩)
  rw [Value.readOneOf, if_pos List.mem_cons_self]

theorem DecisionType.read_of_typeOf? {type : DecisionType}
    (htype : Node.typeOf? (.mapping es) = some type.text) : DecisionType.read es = .ok type := by
  obtain ⟨n, hfind⟩ := Node.typeOf?_eq_some_iff.1 htype
  refine Checked.map_eq_ok_iff.2 ⟨type.text, ?_, by cases type <;> rfl⟩
  refine Spelled.optional_eq_ok_iff.2 (.inl ⟨_, _, hfind, ?_⟩)
  cases type <;> rfl

namespace Body

/-- Where the type of the node is that of the body, it is read as such. -/
theorem typeFrom_of_typeOf? {b : Body} (htype : Node.typeOf? (.mapping es) = some b.nodeType) :
    b.TypeFrom es := by
  cases b with
  | decision type => exact DecisionType.read_of_typeOf? htype
  | unmodelled =>
    obtain ⟨n, hfind⟩ := Node.typeOf?_eq_some_iff.1 htype
    exact Spelled.required_eq_ok_iff.2 ⟨_, _, hfind, rfl⟩
  | _ => exact readOnlyType_of_typeOf? htype

theorem partsFrom_dump (h : Rewritten fields es ws extra) (hmask : ¬ MasksNull fields es)
    {b : Body} (hfields : b.variant.fields ⊆ fields) (hws : b.entries .dropped ⊆ ws)
    (hparts : b.PartsFrom es) : b.tidy.PartsFrom (dumpOf ws extra) := by
  -- each part is found by its place among the entries that the variant writes
  cases b with
  | entryPoint edges =>
    exact FlatEdges.read_dump h hmask (List.append_subset.1 hfields).1
      (List.append_subset.1 hws).1 hparts
  | actions edges list =>
    obtain ⟨hedges, hlist⟩ := hparts
    obtain ⟨hwedges, hwlist⟩ := List.append_subset.1 hws
    refine ⟨FlatEdges.read_dump h hmask (List.append_subset.1 hfields).1 hwedges hedges, ?_⟩
    exact h.optional rereads_actions ⟨.list [], rfl⟩
      (hwlist (List.mem_of_getElem? (i := 1) rfl)) hlist
  | dialog edges speech messages =>
    obtain ⟨hedges, hspeech, hmessages⟩ := hparts
    obtain ⟨hws, hwmessages⟩ := List.append_subset.1 hws
    obtain ⟨hwedges, hwspeech⟩ := List.append_subset.1 hws
    obtain ⟨hfields, -⟩ := List.append_subset.1 hfields
    obtain ⟨hfedges, hfspeech⟩ := List.append_subset.1 hfields
    refine ⟨FlatEdges.read_dump h hmask hfedges hwedges hedges, ?_, ?_⟩
    · exact Speech.read_dump h hmask (List.cons_subset.1 hfspeech).2 (List.cons_subset.1 hwspeech).2
        hspeech
    · exact h.optional rereads_message.list ⟨.list [], rfl⟩
        (hwmessages (List.mem_of_getElem? (i := 0) rfl))
        hmessages
  | questProgress edges progressors =>
    obtain ⟨hedges, hprogressors⟩ := hparts
    obtain ⟨hwedges, hwprogressors⟩ := List.append_subset.1 hws
    refine ⟨FlatEdges.read_dump h hmask (List.append_subset.1 hfields).1 hwedges hedges, ?_⟩
    exact h.optional rereads_texts ⟨.list [], rfl⟩
      (hwprogressors (List.mem_of_getElem? (i := 1) rfl)) hprogressors
  | decision type speech options strayNext =>
    obtain ⟨hspeech, hoptions, hnext⟩ := hparts
    obtain ⟨hwspeech, hwrest⟩ := List.append_subset.1 (List.cons_subset.1 hws).2
    obtain ⟨hfspeech, -⟩ := List.append_subset.1 (List.cons_subset.1 hfields).2
    refine ⟨Speech.read_dump h hmask hfspeech hwspeech hspeech, ?_, ?_⟩
    · exact h.optional rereads_option.list ⟨.list [], rfl⟩
        (hwrest (List.mem_of_getElem? (i := 0) rfl)) hoptions
    · exact h.optional rereads_targets ⟨.list [], rfl⟩
        (hwrest (List.mem_of_getElem? (i := 1) rfl)) hnext
  | conditionBranch required ifTrue ifFalse strayNext =>
    obtain ⟨hrequired, htrue, hfalse, hnext⟩ := hparts
    have hfrequired : requiredField ∈ fields := hfields (by simp [variant, Variant.fields])
    rw [entries, ofText?_eq_writeNullable] at hws
    refine ⟨?_, ?_, ?_, ?_⟩
    · exact h.nullable_plain hmask rereads_text hfrequired
        (hws (List.mem_of_getElem? (i := 1) rfl)) hrequired
    · exact h.optional rereads_targets ⟨.list [], rfl⟩
        (hws (List.mem_of_getElem? (i := 2) rfl)) htrue
    · exact h.optional rereads_targets ⟨.list [], rfl⟩
        (hws (List.mem_of_getElem? (i := 3) rfl)) hfalse
    · exact h.optional rereads_targets ⟨.list [], rfl⟩
        (hws (List.mem_of_getElem? (i := 4) rfl)) hnext
  | unmodelled type next ifTrue ifFalse options =>
    obtain ⟨hnext, htrue, hfalse, hoptions⟩ := hparts
    refine ⟨?_, ?_, ?_, ?_⟩
    · exact h.optional rereads_targets ⟨.list [], rfl⟩
        (hws (List.mem_of_getElem? (i := 1) rfl)) hnext
    · exact h.optional rereads_targets ⟨.list [], rfl⟩
        (hws (List.mem_of_getElem? (i := 2) rfl)) htrue
    · exact h.optional rereads_targets ⟨.list [], rfl⟩
        (hws (List.mem_of_getElem? (i := 3) rfl)) hfalse
    · exact h.optional rereads_option.list ⟨.list [], rfl⟩
        (hws (List.mem_of_getElem? (i := 4) rfl)) hoptions

end Body

end Bodies

/-- A node that masks no null is read again as itself. -/
theorem Node.read_write {n : Node} (hmask : ¬ MasksNull (RecordSort.node.fields es) es)
    (hread : Node.read (.mapping es) = .ok n) : Node.read (n.write .dropped) = .ok n.tidy := by
  obtain ⟨_, t, hes, ht, hentries⟩ := Node.read_eq_ok_iff.1 hread
  cases hes
  obtain ⟨hid, hconditions, hbody, hextra⟩ := Node.readEntries_eq_ok_iff.1 hentries
  obtain ⟨hvariant, htype, hparts⟩ := Body.read_eq_ok_iff.1 hbody
  have hselected : variantOf? es = some (.ofType t) := by rw [variantOf?, ht]; rfl
  have h := (Node.recordWritten ht hentries).1.rewritten
  have htype' := Node.typeOf?_dump ht hentries
  rw [RecordSort.fields_node hselected] at h hmask
  refine Node.read_eq_ok_iff.2 ⟨_, t, rfl, htype', Node.readEntries_eq_ok_iff.2 ⟨?_, ?_, ?_, ?_⟩⟩
  · exact h.required rereads_int (List.mem_of_getElem? (i := 0) rfl) hid
  · exact h.optional rereads_conditions ⟨.list [], rfl⟩
      (List.mem_of_getElem? (i := 1) rfl) hconditions
  · have hfields : n.body.variant.fields ⊆ fieldsOf (.ofType t) := by
      rw [hvariant]
      exact fun f hf => .tail _ (.tail _ hf)
    refine Body.read_eq_ok_iff.2 ⟨?_, Body.typeFrom_of_typeOf? ?_, ?_⟩
    · rw [← hvariant]
      exact renames_tidy.variant n
    · rw [Node.tidy, Body.nodeType_tidy, Body.nodeType_eq htype ht]
      exact htype'
    · exact Body.partsFrom_dump h hmask hfields (List.subset_append_right _ _) hparts
  · exact h.leftOver_dump hmask

/-! ## Quests -/

/-- A quest that masks no null, and of which no node does, is read again as itself. -/
theorem Quest.readEntries_dump {q : Quest} (hmask : ¬ MasksNull (RecordSort.quest.fields es) es)
    (hnodes : ∀ n ∈ q.nodes, Node.read (n.write .dropped) = .ok n.tidy)
    (hread : Quest.readEntries es = .ok q) :
    ∃ es', q.write .dropped = .mapping es' ∧ Quest.readEntries es' = .ok q.tidy := by
  obtain ⟨hid, hname, htypeVersion, hversion, htype, hrepeatable, hlist, hextra, hsource⟩ :=
    Quest.readEntries_eq_ok_iff.1 hread
  have h := (Quest.recordWritten hread).rewritten
  refine ⟨_, rfl, Quest.readEntries_eq_ok_iff.2 ⟨?_, ?_, ?_, ?_, ?_, ?_, ?_, ?_, hsource⟩⟩
  · exact h.required rereads_questId (List.mem_of_getElem? (i := 0) rfl) hid
  · exact h.optional rereads_localized ⟨.mapping [], rfl⟩ (List.mem_of_getElem? (i := 1) rfl) hname
  · refine h.nullable_plain hmask rereads_int (List.mem_of_getElem? (i := 2) rfl) ?_ htypeVersion
    exact ofInt?_eq_writeNullable _ ▸ List.mem_of_getElem? (i := 2) rfl
  · refine h.nullable_plain hmask rereads_int (List.mem_of_getElem? (i := 3) rfl) ?_ hversion
    exact ofInt?_eq_writeNullable _ ▸ List.mem_of_getElem? (i := 3) rfl
  · refine h.nullable_plain hmask rereads_text (List.mem_of_getElem? (i := 4) rfl) ?_ htype
    exact ofText?_eq_writeNullable _ ▸ List.mem_of_getElem? (i := 4) rfl
  · refine h.nullable_plain hmask rereads_text (List.mem_of_getElem? (i := 5) rfl) ?_ hrepeatable
    exact ofText?_eq_writeNullable _ ▸ List.mem_of_getElem? (i := 5) rfl
  · refine h.optional_of_mem ?_ ?_ (Value.readList_write hnodes)
    · exact List.mem_of_getElem? (i := 6) rfl
    · simp
  · exact h.leftOver_dump hmask

/-- Each node of a quest was read from a record of the document. -/
theorem Quest.exists_hasRecord_of_mem {q : Quest} {n : Node}
    (hread : Quest.readEntries es = .ok q) (hn : n ∈ q.nodes) :
    ∃ r, (Value.mapping es).HasRecord r ∧ r.sort = .node ∧
      Node.read (.mapping r.entries) = .ok n := by
  obtain ⟨-, -, -, -, -, -, hnodes, -, -⟩ := Quest.readEntries_eq_ok_iff.1 hread
  rcases Spelled.optional_eq_ok_iff.1 hnodes with ⟨name, v, hfind, hv⟩ | ⟨-, hnone⟩
  · obtain ⟨items, rfl, hitems⟩ := Value.readList_eq_ok_iff.1 hv
    obtain ⟨i, hi⟩ := List.mem_iff_getElem?.1 hn
    obtain ⟨item, hitem, hread⟩ := exists_getElem?_of_forall₂ hitems.flip hi
    obtain ⟨es', t, rfl, -⟩ := Node.read_eq_ok_iff.1 hread
    refine ⟨⟨[.field nodesField.label, .index i], .node, es'⟩, .part (.whole rfl) ?_, rfl, hread⟩
    refine Record.mem_parts_iff.2
      ⟨nodesField, .records .node, name, _, List.mem_of_getElem? (i := 6) rfl, hfind, ?_⟩
    exact FieldContent.mem_recordsIn_iff.2 ⟨es', .inr ⟨rfl, items, i, rfl, hitem, rfl⟩⟩
  · rw [hnone] at hn
    cases hn

/-! ## The exact condition -/

namespace Record

/-- The record has a null under the label of a field, and a value under its plain name. -/
def MasksNull (r : Record) : Prop := QuestFlow.MasksNull r.fields r.entries

instance (r : Record) : Decidable r.MasksNull :=
  inferInstanceAs (Decidable (QuestFlow.MasksNull _ _))

variable {r r' p : Record}

/-- The parts of a record that is written as itself are written as themselves. -/
theorem WrittenAs.part_self (h : r.WrittenAs r) (hp : p ∈ r.parts) : p.WrittenAs p := by
  obtain ⟨f, c, n, v, hf, hfind, hp⟩ := mem_parts_iff.1 hp
  have hsame : v ≠ .null → c.Written v v := by
    intro hv
    -- what is written is found in the same entries, so it is what was read
    obtain ⟨-, w, hfind', hkept⟩ := h.exists_find hf hfind hv
    rw [hfind] at hfind'
    cases hfind'
    exact hkept
  obtain ⟨es, ⟨rfl, rfl, hplace⟩ | ⟨rfl, items, i, rfl, hi, hplace⟩⟩ :=
    FieldContent.mem_recordsIn_iff.1 hp
  · refine ⟨rfl, rfl, ?_⟩
    rw [hplace]
    exact hsame (by simp)
  · obtain ⟨vs, ws, hvs, hws, hall⟩ := hsame (by simp)
    cases hvs
    cases hws
    refine ⟨rfl, rfl, ?_⟩
    rw [hplace]
    exact List.forall₂_same.1 hall _ (List.mem_of_getElem? hi)

/-- What is written for a record with a masked null is not written as itself. -/
theorem WrittenAs.not_self (h : r.WrittenAs r') (hmask : r.MasksNull) : ¬ r'.WrittenAs r' := by
  intro h'
  obtain ⟨ws, extra, hes, hwritten, -⟩ := RecordSort.exists_written h.rewrite
  obtain ⟨ws', extra', hes', hwritten', -⟩ := RecordSort.exists_written h'.rewrite
  have hfields : r'.sort.fields r'.entries = r.sort.fields r.entries := h.fields_eq
  have hagain := hwritten'.rewritten
  rw [hfields, Value.mapping.inj hes] at hagain
  refine hwritten.rewritten.dump_ne_of_masksNull hmask hagain ?_
  rw [← Value.mapping.inj hes', ← Value.mapping.inj hes]

end Record

/-- If a document is written as itself, so is each of its records. -/
theorem Value.HasRecord.writtenAs_self {doc : Value} {r : Record}
    (hdoc : RecordSort.quest.rewrite? doc = some doc) (h : doc.HasRecord r) : r.WrittenAs r := by
  induction h with
  | whole hmapping =>
    subst hmapping
    exact ⟨rfl, rfl, hdoc⟩
  | part _ hp ih => exact ih.part_self hp

namespace Quest

variable {doc : Value} {source : Option Path} {q : Quest}

theorem rewrite?_of_ofDocument (hread : ofDocument doc source = .ok q) :
    RecordSort.quest.rewrite? doc = some q.toDocument := by
  obtain ⟨es, q₀, rfl, hentries, rfl⟩ := ofDocument_eq_ok_iff.1 hread
  have hvalue : Quest.read (.mapping es) = .ok q₀ := hentries
  rw [RecordSort.rewrite?, hvalue]
  rfl

/-- Without a masked null, the written document is read as the quest itself, made tidy. -/
theorem ofDocument_toDocument (hread : ofDocument doc source = .ok q)
    (hmask : ∀ r, doc.HasRecord r → ¬ r.MasksNull) :
    ofDocument q.toDocument source = .ok q.tidy := by
  obtain ⟨es, q₀, rfl, hentries, rfl⟩ := ofDocument_eq_ok_iff.1 hread
  have hnodes : ∀ n ∈ q₀.nodes, Node.read (n.write .dropped) = .ok n.tidy := by
    intro n hn
    obtain ⟨r, hr, hsort, hnode⟩ := exists_hasRecord_of_mem hentries hn
    have hfree := hmask r hr
    rw [Record.MasksNull, Record.fields, hsort] at hfree
    exact Node.read_write hfree hnode
  obtain ⟨es', hwrite, hagain⟩ := readEntries_dump (hmask _ (.whole rfl)) hnodes hentries
  exact ofDocument_eq_ok_iff.2 ⟨es', q₀.tidy, hwrite, hagain, rfl⟩

/-- **The exact condition**: the written document is accepted and written as itself once more, just
when no record of the document that was read masks a null. -/
theorem stable_iff (hread : ofDocument doc source = .ok q) :
    (∃ q', ofDocument q.toDocument source = .ok q' ∧ q'.toDocument = q.toDocument) ↔
      ∀ r, doc.HasRecord r → ¬ r.MasksNull := by
  constructor
  · rintro ⟨q', hagain, hsame⟩ r hr hmask
    -- a document that is written as itself would do so in the place of `r` as well
    have hself := rewrite?_of_ofDocument hagain
    rw [hsame] at hself
    obtain ⟨r', hr', hwritten⟩ := hr.exists_written (rewrite?_of_ofDocument hread)
    exact hwritten.not_self hmask (hr'.writtenAs_self hself)
  · intro hmask
    exact ⟨_, ofDocument_toDocument hread hmask, q.write_tidy⟩

end Quest

/-- Both spellings, nulls, and entries that no field takes; some fields under both of their names,
but never a null under the label. -/
def patchwork : Value :=
  .ofFields [("QuestID", .text "Q1"), ("quest_id", .int 7), ("QuestVersion", .null),
    ("quest_type_version", .int 2), ("note", .null), ("editor", .ofFields [("zoom", .null)]),
    ("display_name", .ofFields [("en-US", .text "Start"), ("fr", .text "Début")]),
    ("quest_nodes", .list [
      .ofFields [("node_id", .bool true), ("NodeType", .text "Dialog"), ("Text", .null),
        ("Messages", .list [.ofFields [("Speaker", .text "Mira"), ("speaker", .text "Odo")]])]])]

/-- It is read and written again and again without a change. -/
theorem patchwork_stable : ∃ q, Quest.ofDocument patchwork none = .ok q ∧
    ∃ q', Quest.ofDocument q.toDocument none = .ok q' ∧ q'.toDocument = q.toDocument := by
  have hmask : ∀ r ∈ patchwork.records, ¬ r.MasksNull := by decide +kernel
  obtain ⟨q, hread⟩ : ∃ q, Quest.ofDocument patchwork none = .ok q := ⟨_, rfl⟩
  refine ⟨q, hread, (Quest.stable_iff hread).2 fun r hr => ?_⟩
  exact hmask r (Value.mem_records_iff.2 hr)

/-- A quest whose type is given as null, and once more under the plain name of the field. -/
def twoTypes : Value :=
  .ofFields [("QuestID", .text "Q1"), ("QuestType", .null), ("quest_type", .text "x")]

/-- The type that was left over at first is the type of the quest when it is read again. -/
theorem twoTypes_not_stable : ∃ q q', Quest.ofDocument twoTypes none = .ok q ∧
    Quest.ofDocument q.toDocument none = .ok q' ∧ q.type = none ∧ q'.type = some "x" ∧
      q'.toDocument ≠ q.toDocument := by
  refine ⟨_, _, rfl, rfl, rfl, rfl, ?_⟩
  decide

end QuestFlow

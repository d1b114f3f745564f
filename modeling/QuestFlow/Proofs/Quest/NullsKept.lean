import QuestFlow.Proofs.Quest.Rereading

/-!
# Reading a node that was written with its nulls

A record that is written with its nulls has each of its fields under the label, those without a
value among them.  So no field can be mistaken: a left-over entry with the plain name of a field
stays left over, and the accident that befalls a record written without nulls (`MasksNull`) cannot
happen.

1. **One field** — `Held` says that all fields are found under their labels.  Each is read again
   then (`Held.optional`, `Held.nullable`).
2. **One record** — the fields of a record come first and have different labels (`Labelled`), so
   they are held, and what was left over is left over again (`Labelled.held`,
   `Labelled.leftOver`).
3. **One node** — from the innermost records outwards, what is read is what was written
   (`Node.read_write_kept`).
-/

namespace QuestFlow

variable {α : Type} {read : Value → Checked α} {write : α → Value} {es es' : Entries} {ws : Fields}

/-! ## One field -/

/-- Each of the fields is found in the entries under its label, with its value. -/
def Held (es : Entries) (ws : Fields) : Prop :=
  ∀ (f : Spelled) (w : Value), (f.label, w) ∈ ws → f.find es = some (f.label, w)

namespace Held

variable {f : Spelled}

theorem mono {ws' : Fields} (h : Held es ws) (hsubset : ws' ⊆ ws) : Held es ws' :=
  fun f w hw => h f w (hsubset hw)

theorem required (h : Held es' ws) (hagain : Rereads read write id) {a : α}
    (hw : (f.label, write a) ∈ ws) (hread : f.required read es = .ok a) :
    f.required read es' = .ok a := by
  obtain ⟨n, v, -, hv⟩ := Spelled.required_eq_ok_iff.1 hread
  exact Spelled.required_eq_ok_iff.2 ⟨_, _, h f _ hw, hagain.again v a hv⟩

theorem optional (h : Held es' ws) (hagain : Rereads read write id) {fallback a : α}
    (hfallback : ∃ v, read v = .ok fallback) (hw : (f.label, write a) ∈ ws)
    (hread : f.optional read fallback es = .ok a) : f.optional read fallback es' = .ok a := by
  obtain ⟨v, hv⟩ := Spelled.exists_read_of_optional hread hfallback
  exact Spelled.optional_eq_ok_iff.2 (.inl ⟨_, _, h f _ hw, hagain.again v a hv⟩)

/-- A field without a value is written as null, and read as one without a value. -/
theorem nullable (h : Held es' ws) (hagain : Rereads read write id) {a : Option α}
    (hw : (f.label, writeNullable write a) ∈ ws)
    (hread : f.optional (Value.readNullable read) none es = .ok a) :
    f.optional (Value.readNullable read) none es' = .ok a := by
  refine Spelled.optional_eq_ok_iff.2 (.inl ⟨_, _, h f _ hw, Value.readNullable_eq_ok_iff.2 ?_⟩)
  cases a with
  | none => exact .inl ⟨rfl, rfl⟩
  | some x =>
    obtain ⟨v, hv⟩ := Spelled.exists_read_of_nullable hread
    exact .inr ⟨hagain.ne_null x, x, hagain.again v x hv, rfl⟩

end Held

/-! ## One record -/

/-- What is written are the fields of a record, each under its label. -/
structure Labelled (fields : List Spelled) (ws : Fields) : Prop where
  distinct : (fields.map (·.label)).Nodup
  labels : ws.map (·.1) = fields.map (·.label)

namespace Labelled

variable {fields : List Spelled} {extra : Extra}

theorem lookup (h : Labelled fields ws) {name : String} {w : Value} (hw : (name, w) ∈ ws) :
    Value.lookup name (entriesOf (ws ++ extra)) = some w := by
  have hfound : ws.lookup name = some w := lookup_eq_some_of_mem (h.labels ▸ h.distinct) hw
  rw [lookup_entriesOf, List.lookup_append, hfound, Option.some_or]

/-- In a record with its nulls all fields are held. -/
theorem held (h : Labelled fields ws) (extra : Extra) : Held (entriesOf (ws ++ extra)) ws :=
  fun _ _ hw => Spelled.find_of_lookup (h.lookup hw)

/-- In a record with its nulls the same is left over again. -/
theorem leftOver (h : Labelled fields ws) (hleft : leftOver fields es = .ok extra) :
    QuestFlow.leftOver fields (entriesOf (ws ++ extra)) = .ok extra := by
  have hfields : ws.filter (fun e => !takenBy fields (entriesOf (ws ++ extra)) e.1) = [] := by
    refine List.filter_eq_nil_iff.2 fun e he => ?_
    have hlabel : e.1 ∈ fields.map (·.label) := h.labels ▸ List.mem_map_of_mem he
    obtain ⟨f, hf, heq⟩ := List.mem_map.1 hlabel
    simp [takenBy_eq_true_iff.2 ⟨f, hf, .inl heq.symm⟩]
  have hextra : extra.filter (fun e => !takenBy fields (entriesOf (ws ++ extra)) e.1) = extra := by
    refine List.filter_eq_self.2 fun (n, v) hv => ?_
    rw [Bool.not_eq_true', ← Bool.not_eq_true, takenBy_eq_true_iff]
    rintro ⟨f, hf, rfl | ⟨-, hnone⟩⟩
    · exact label_notMem_of_leftOver hleft hf hv
    · -- the label stands over the field, so the plain name is free
      have hlabel : f.label ∈ ws.map (·.1) := h.labels ▸ List.mem_map_of_mem hf
      obtain ⟨⟨name, w⟩, hw, hname⟩ := List.mem_map.1 hlabel
      rw [← hname, h.lookup hw] at hnone
      cases hnone
  rw [leftOver_entriesOf, List.filter_append, hfields, hextra]
  rfl

end Labelled

theorem rereads_localized_kept : Rereads Localized.read (·.write .kept) id where
  ne_null := nofun
  again v t hread := by
    obtain ⟨es, rfl, henglish, hgerman, hextra⟩ := Localized.read_eq_ok_iff.1 hread
    have hlabelled : Labelled Localized.fields
        [("en-US", .text t.english), ("de-DE", .text t.german)] := ⟨by decide, rfl⟩
    have h := hlabelled.held t.extra
    refine Localized.read_eq_ok_iff.2 ⟨_, rfl, ?_, ?_, hlabelled.leftOver hextra⟩
    · exact h.optional rereads_text ⟨.text "", rfl⟩ (List.mem_of_getElem? (i := 0) rfl) henglish
    · exact h.optional rereads_text ⟨.text "", rfl⟩ (List.mem_of_getElem? (i := 1) rfl) hgerman

theorem rereads_message_kept : Rereads DialogMessage.read (·.write .kept) id where
  ne_null := nofun
  again v m hread := by
    obtain ⟨es, rfl, hspeaker, htext, hextra⟩ := DialogMessage.read_eq_ok_iff.1 hread
    have hlabelled : Labelled DialogMessage.fields
        [("Speaker", .text m.speaker), ("Text", m.text.write .kept)] := ⟨by decide, rfl⟩
    have h := hlabelled.held m.extra
    refine DialogMessage.read_eq_ok_iff.2 ⟨_, rfl, ?_, ?_, hlabelled.leftOver hextra⟩
    · exact h.optional rereads_text ⟨.text "", rfl⟩ (List.mem_of_getElem? (i := 0) rfl) hspeaker
    · exact h.optional rereads_localized_kept ⟨.mapping [], rfl⟩
        (List.mem_of_getElem? (i := 1) rfl) htext

theorem rereads_option_kept : Rereads DialogOption.read (·.write .kept) id where
  ne_null := nofun
  again v o hread := by
    obtain ⟨es, rfl, htext, hconditions, hnext, hextra⟩ := DialogOption.read_eq_ok_iff.1 hread
    have hlabelled : Labelled DialogOption.fields
        [("Text", o.text.write .kept), ("Conditions", writeConditions o.conditions),
          ("NextNodes", .ofInts o.next)] := ⟨by decide, rfl⟩
    have h := hlabelled.held o.extra
    refine DialogOption.read_eq_ok_iff.2 ⟨_, rfl, ?_, ?_, ?_, hlabelled.leftOver hextra⟩
    · exact h.optional rereads_localized_kept ⟨.mapping [], rfl⟩
        (List.mem_of_getElem? (i := 0) rfl) htext
    · exact h.optional rereads_conditions ⟨.list [], rfl⟩
        (List.mem_of_getElem? (i := 1) rfl) hconditions
    · exact h.optional rereads_targets ⟨.list [], rfl⟩ (List.mem_of_getElem? (i := 2) rfl) hnext

theorem Rereads.list_id (h : Rereads read write id) :
    Rereads (Value.readList read) (fun as => .list (as.map write)) id := by
  have hlist := h.list
  rwa [List.map_id_fun] at hlist

/-! ## One node -/

theorem FlatEdges.read_of_held {e : FlatEdges} (h : Held es' (e.entries .kept))
    (hread : FlatEdges.read es = .ok e) : FlatEdges.read es' = .ok e := by
  obtain ⟨hnext, htrue, hfalse, hoptions⟩ := FlatEdges.read_eq_ok_iff.1 hread
  refine FlatEdges.read_eq_ok_iff.2 ⟨?_, ?_, ?_, ?_⟩
  · exact h.optional rereads_targets ⟨.list [], rfl⟩ (List.mem_of_getElem? (i := 0) rfl) hnext
  · exact h.nullable rereads_targets (List.mem_of_getElem? (i := 1) rfl) htrue
  · exact h.nullable rereads_targets (List.mem_of_getElem? (i := 2) rfl) hfalse
  · exact h.nullable rereads_option_kept.list_id (List.mem_of_getElem? (i := 3) rfl) hoptions

theorem Speech.read_of_held {s : Speech} (h : Held es' (s.entries .kept))
    (hread : Speech.read es = .ok s) : Speech.read es' = .ok s := by
  obtain ⟨hpartner, hspeaker, htext⟩ := Speech.read_eq_ok_iff.1 hread
  refine Speech.read_eq_ok_iff.2 ⟨?_, ?_, ?_⟩
  · exact h.optional rereads_text ⟨.text "", rfl⟩ (List.mem_of_getElem? (i := 0) rfl) hpartner
  · exact h.optional rereads_text ⟨.text "", rfl⟩ (List.mem_of_getElem? (i := 1) rfl) hspeaker
  · exact h.nullable rereads_localized_kept (List.mem_of_getElem? (i := 2) rfl) htext

theorem Body.partsFrom_of_held {b : Body} (h : Held es' (b.entries .kept))
    (hparts : b.PartsFrom es) : b.PartsFrom es' := by
  -- each part is found by its place among the entries that the variant writes
  cases b with
  | entryPoint edges =>
    exact FlatEdges.read_of_held (h.mono (List.subset_append_left _ _)) hparts
  | actions edges list =>
    obtain ⟨hedges, hlist⟩ := hparts
    have hrest := h.mono (List.subset_append_right _ _)
    refine ⟨FlatEdges.read_of_held (h.mono (List.subset_append_left _ _)) hedges, ?_⟩
    exact hrest.optional rereads_actions ⟨.list [], rfl⟩
      (List.mem_of_getElem? (i := 1) rfl) hlist
  | dialog edges speech messages =>
    obtain ⟨hedges, hspeech, hmessages⟩ := hparts
    have hfront := h.mono (List.subset_append_left _ _)
    have hrest := h.mono (List.subset_append_right _ _)
    refine ⟨FlatEdges.read_of_held (hfront.mono (List.subset_append_left _ _)) hedges, ?_, ?_⟩
    · exact Speech.read_of_held (hfront.mono fun e he =>
        List.mem_append_right _ (List.mem_cons_of_mem _ he)) hspeech
    · exact hrest.optional rereads_message_kept.list_id ⟨.list [], rfl⟩
        (List.mem_of_getElem? (i := 0) rfl) hmessages
  | questProgress edges progressors =>
    obtain ⟨hedges, hprogressors⟩ := hparts
    have hrest := h.mono (List.subset_append_right _ _)
    refine ⟨FlatEdges.read_of_held (h.mono (List.subset_append_left _ _)) hedges, ?_⟩
    exact hrest.optional rereads_texts ⟨.list [], rfl⟩
      (List.mem_of_getElem? (i := 1) rfl) hprogressors
  | decision type speech options strayNext =>
    obtain ⟨hspeech, hoptions, hnext⟩ := hparts
    have hrest := h.mono (List.subset_append_right _ _)
    refine ⟨Speech.read_of_held (h.mono fun e he =>
      List.mem_append_left _ (List.mem_cons_of_mem _ he)) hspeech, ?_, ?_⟩
    · exact hrest.optional rereads_option_kept.list_id ⟨.list [], rfl⟩
        (List.mem_of_getElem? (i := 0) rfl) hoptions
    · exact hrest.optional rereads_targets ⟨.list [], rfl⟩
        (List.mem_of_getElem? (i := 1) rfl) hnext
  | conditionBranch required ifTrue ifFalse strayNext =>
    obtain ⟨hrequired, htrue, hfalse, hnext⟩ := hparts
    rw [entries, ofText?_eq_writeNullable] at h
    refine ⟨?_, ?_, ?_, ?_⟩
    · exact h.nullable rereads_text (List.mem_of_getElem? (i := 1) rfl) hrequired
    · exact h.optional rereads_targets ⟨.list [], rfl⟩ (List.mem_of_getElem? (i := 2) rfl) htrue
    · exact h.optional rereads_targets ⟨.list [], rfl⟩ (List.mem_of_getElem? (i := 3) rfl) hfalse
    · exact h.optional rereads_targets ⟨.list [], rfl⟩ (List.mem_of_getElem? (i := 4) rfl) hnext
  | unmodelled type next ifTrue ifFalse options =>
    obtain ⟨hnext, htrue, hfalse, hoptions⟩ := hparts
    refine ⟨?_, ?_, ?_, ?_⟩
    · exact h.optional rereads_targets ⟨.list [], rfl⟩ (List.mem_of_getElem? (i := 1) rfl) hnext
    · exact h.optional rereads_targets ⟨.list [], rfl⟩ (List.mem_of_getElem? (i := 2) rfl) htrue
    · exact h.optional rereads_targets ⟨.list [], rfl⟩ (List.mem_of_getElem? (i := 3) rfl) hfalse
    · exact h.optional rereads_option_kept.list_id ⟨.list [], rfl⟩
        (List.mem_of_getElem? (i := 4) rfl) hoptions

/-- A node is written with the fields of its variant. -/
theorem Node.labelled (n : Node) (nulls : Nulls) : Labelled (Node.fieldsOf n.variant)
    ([("NodeID", .int n.id), ("Conditions", writeConditions n.conditions)] ++
      n.body.entries nulls) := by
  refine ⟨?_, ?_⟩
  · cases n.variant <;> decide
  · rw [Node.variant]
    cases n.body <;> rfl

/-- **With its nulls a node is read as itself.** -/
theorem Node.read_write_kept {n : Node} (hread : Node.read (.mapping es) = .ok n) :
    Node.read (n.write .kept) = .ok n := by
  obtain ⟨_, t, hes, ht, hentries⟩ := Node.read_eq_ok_iff.1 hread
  cases hes
  obtain ⟨hid, hconditions, hbody, hextra⟩ := Node.readEntries_eq_ok_iff.1 hentries
  obtain ⟨hvariant, htype, hparts⟩ := Body.read_eq_ok_iff.1 hbody
  have hlabelled := n.labelled .kept
  rw [Node.variant, hvariant] at hlabelled
  have hheld : Held (entriesOf (n.entries .kept)) _ := hlabelled.held n.extra
  have hbodyHeld := hheld.mono (List.subset_append_right _ _)
  have htype' : Node.typeOf? (.mapping (entriesOf (n.entries .kept))) = some n.body.nodeType := by
    refine Node.typeOf?_eq_some_iff.2 ⟨_, hbodyHeld typeField _ ?_⟩
    cases n.body <;> simp [Body.entries, typeField]
  refine Node.read_eq_ok_iff.2 ⟨_, n.body.nodeType, rfl, htype', ?_⟩
  rw [Body.nodeType_eq htype ht]
  refine Node.readEntries_eq_ok_iff.2 ⟨?_, ?_, Body.read_eq_ok_iff.2 ⟨hvariant, ?_, ?_⟩, ?_⟩
  · exact hheld.required rereads_int (List.mem_of_getElem? (i := 0) rfl) hid
  · exact hheld.optional rereads_conditions ⟨.list [], rfl⟩
      (List.mem_of_getElem? (i := 1) rfl) hconditions
  · exact Body.typeFrom_of_typeOf? htype'
  · exact Body.partsFrom_of_held hbodyHeld hparts
  · exact hlabelled.leftOver hextra

end QuestFlow

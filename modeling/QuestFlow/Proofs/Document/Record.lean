import Mathlib.Data.List.Nodup
import QuestFlow.Proofs.Document.Reading

/-!
# Reading back a record that was written

A record that has been read is written with its fields under their labels, and with its left-over
entries after them; nulls are not written.  This file says how the written entries are read.

* `Rewritten` is what a record of any sort gives: the entries it was read from, the fields it is
  written with, and its left-over entries.
* A field whose value is not null is found under its label (`Rewritten.find_of_ne`), and left-over
  entries come back (`Rewritten.lookup_of_leftOver`), whatever else there is.
* A field whose value is null is not written.  It stays absent, unless a left-over entry has the
  plain name of the field: that entry is taken for the field when the written record is read.
  `MasksNull` is this one accident, seen from the entries that were read first.
* Without it the written entries are read as they were (`Rewritten.find_of_null`,
  `Rewritten.leftOver_dump`); with it they never are (`Rewritten.dump_ne_of_masksNull`).
-/

namespace QuestFlow

variable {name : String} {v : Value} {fs : Fields}

/-! ## Entries under texts -/

/-- Fields as the entries of a mapping. -/
def entriesOf (fs : Fields) : Entries := fs.map fun (name, v) => (.text name, v)

/-- The fields that are not null. -/
def present (fs : Fields) : Fields := fs.filter fun (_, v) => v != .null

theorem mem_present : (name, v) ∈ present fs ↔ (name, v) ∈ fs ∧ v ≠ .null := by
  simp [present]

theorem present_append (fs gs : Fields) : present (fs ++ gs) = present fs ++ present gs :=
  List.filter_append fs gs

theorem present_present (fs : Fields) : present (present fs) = present fs := by
  simp [present]

theorem mem_entriesOf : (.text name, v) ∈ entriesOf fs ↔ (name, v) ∈ fs := by
  simp [entriesOf]

theorem lookup_entriesOf (name : String) (fs : Fields) :
    Value.lookup name (entriesOf fs) = fs.lookup name := by
  induction fs with
  | nil => rfl
  | cons e fs ih =>
    obtain ⟨n, v⟩ := e
    rw [Value.lookup] at ih
    have hkey : (Key.text name == Key.text n) = (name == n) := by
      rw [Bool.eq_iff_iff, beq_iff_eq, beq_iff_eq, Key.text.injEq]
    rw [entriesOf, List.map_cons, Value.lookup, List.lookup_cons, List.lookup_cons, hkey]
    cases name == n with
    | true => rfl
    | false => exact ih

theorem mem_of_lookup_eq_some (h : fs.lookup name = some v) : (name, v) ∈ fs := by
  obtain ⟨before, after, rfl, -⟩ := List.lookup_eq_some_iff.1 h
  exact List.mem_append_right _ List.mem_cons_self

/-- What is not found is no entry. -/
theorem notMem_of_lookup_eq_none {κ : Type} [BEq κ] [LawfulBEq κ] {k : κ} {es : List (κ × Value)}
    (h : es.lookup k = none) : (k, v) ∉ es := by
  intro hmem
  have hdiffers := List.lookup_eq_none_iff.1 h _ hmem
  simp at hdiffers

theorem lookup_eq_none_of_notMem (h : ∀ v, (name, v) ∉ fs) : fs.lookup name = none := by
  cases hlookup : fs.lookup name with
  | none => rfl
  | some v => exact absurd (mem_of_lookup_eq_some hlookup) (h v)

/-- Where names are distinct, each entry is the one that is found. -/
theorem lookup_eq_some_of_mem (hdistinct : (fs.map (·.1)).Nodup) (hmem : (name, v) ∈ fs) :
    fs.lookup name = some v := by
  obtain ⟨before, after, rfl⟩ := List.append_of_mem hmem
  refine List.lookup_eq_some_iff.2 ⟨before, after, rfl, fun e he => ?_⟩
  rw [List.map_append, List.map_cons, List.nodup_append] at hdistinct
  exact bne_iff_ne.2 (hdistinct.2.2 _ (List.mem_map_of_mem he) _ List.mem_cons_self).symm

theorem lookup_filter_name (p : String → Bool) (name : String) (fs : Fields) :
    (fs.filter fun e => p e.1).lookup name = if p name then fs.lookup name else none := by
  induction fs with
  | nil => simp
  | cons e fs ih =>
    obtain ⟨n, v⟩ := e
    by_cases hn : name = n
    · subst hn
      cases hp : p name with
      | true => simp [hp]
      | false => simpa [hp] using ih
    · have hbeq : (name == n) = false := beq_eq_false_iff_ne.2 hn
      cases hp : p n with
      | true => simpa [hp, List.lookup_cons, hbeq] using ih
      | false => simpa [hp, List.lookup_cons, hbeq] using ih

/-- Leaving nulls out keeps what is found, if it is no null. -/
theorem lookup_present (h : fs.lookup name = some v) (hv : v ≠ .null) :
    (present fs).lookup name = some v := by
  obtain ⟨before, after, rfl, hbefore⟩ := List.lookup_eq_some_iff.1 h
  have hkept : present (before ++ (name, v) :: after) =
      present before ++ (name, v) :: present after := by
    simp [present, hv]
  refine List.lookup_eq_some_iff.2 ⟨present before, present after, hkept, fun e he => ?_⟩
  exact hbefore e (List.mem_filter.1 he).1

/-- Where names are distinct, leaving a null out makes no other entry appear. -/
theorem lookup_present_of_null (hdistinct : (fs.map (·.1)).Nodup)
    (h : fs.lookup name = some .null) : (present fs).lookup name = none := by
  refine lookup_eq_none_of_notMem fun v hv => ?_
  obtain ⟨hmem, hne⟩ := mem_present.1 hv
  rw [lookup_eq_some_of_mem hdistinct hmem] at h
  exact hne (Option.some.inj h)

theorem lookup_present_of_none (h : fs.lookup name = none) : (present fs).lookup name = none :=
  lookup_eq_none_of_notMem fun _ hv => notMem_of_lookup_eq_none h (mem_present.1 hv).1

/-! ## Left-over entries -/

variable {fields : List Spelled} {es : Entries} {extra : Extra}

/-- Whether some field of the record takes the entry of this name. -/
def takenBy (fields : List Spelled) (es : Entries) (name : String) : Bool :=
  fields.any (·.takes es name)

theorem takenBy_eq_true_iff : takenBy fields es name = true ↔
    ∃ f ∈ fields, name = f.label ∨ name = f.plain ∧ Value.lookup f.label es = none := by
  simp [takenBy, Spelled.takes]

theorem leftOver_entriesOf (fields : List Spelled) (fs : Fields) :
    leftOver fields (entriesOf fs) =
      .ok (fs.filter fun e => !takenBy fields (entriesOf fs) e.1) := by
  suffices hall : ∀ es gs, leftOverOf fields es (entriesOf gs) =
      .ok (gs.filter fun e => !takenBy fields es e.1) from hall _ fs
  intro es gs
  induction gs with
  | nil => rfl
  | cons e gs ih =>
    obtain ⟨n, v⟩ := e
    rw [entriesOf] at ih
    rw [entriesOf, List.map_cons, leftOverOf, ih, List.filter_cons, takenBy]
    cases fields.any (·.takes es n) <;> rfl

/-- Left-over entries can be read only where every key is a text. -/
theorem exists_entriesOf (hread : leftOver fields es = .ok extra) : ∃ fs, es = entriesOf fs := by
  suffices hall : ∀ (all rest : Entries) (extra : Extra), leftOverOf fields all rest = .ok extra →
      ∃ fs, rest = entriesOf fs from hall es es extra hread
  intro all rest
  induction rest with
  | nil => exact fun _ _ => ⟨[], rfl⟩
  | cons e rest ih =>
    intro extra hread
    obtain ⟨k, v⟩ := e
    cases k with
    | text n =>
      have hrest : ∃ extra', leftOverOf fields all rest = .ok extra' := by
        rw [leftOverOf] at hread
        split at hread
        · exact ⟨extra, hread⟩
        · obtain ⟨extra', hextra', -⟩ := Checked.map_eq_ok_iff.1 hread
          exact ⟨extra', hextra'⟩
      obtain ⟨extra', hextra'⟩ := hrest
      obtain ⟨fs, rfl⟩ := ih extra' hextra'
      exact ⟨(n, v) :: fs, rfl⟩
    | _ =>
      obtain ⟨_, _, hfault, -⟩ := Checked.seq_eq_ok_iff.1 hread
      cases hfault

theorem mem_leftOver_iff (hread : leftOver fields es = .ok extra) :
    (name, v) ∈ extra ↔ (.text name, v) ∈ es ∧ takenBy fields es name = false := by
  obtain ⟨fs, rfl⟩ := exists_entriesOf hread
  rw [leftOver_entriesOf] at hread
  cases hread
  rw [List.mem_filter, mem_entriesOf, Bool.not_eq_true']

/-- No left-over entry stands under a label. -/
theorem label_notMem_of_leftOver (hread : leftOver fields es = .ok extra) {f : Spelled}
    (hf : f ∈ fields) : (f.label, v) ∉ extra := by
  intro hmem
  have hfree := ((mem_leftOver_iff hread).1 hmem).2
  have htaken : takenBy fields es f.label = true := takenBy_eq_true_iff.2 ⟨f, hf, .inl rfl⟩
  rw [htaken] at hfree
  cases hfree

theorem lookup_leftOver (hread : leftOver fields es = .ok extra)
    (hfree : takenBy fields es name = false) : extra.lookup name = Value.lookup name es := by
  obtain ⟨fs, rfl⟩ := exists_entriesOf hread
  rw [leftOver_entriesOf] at hread
  cases hread
  rw [lookup_filter_name fun n => !takenBy fields (entriesOf fs) n, hfree, lookup_entriesOf]
  rfl

/-- Left-over entries have different names, if the keys of the record are different. -/
theorem nodup_leftOver (hread : leftOver fields es = .ok extra) (hkeys : (es.map (·.1)).Nodup) :
    (extra.map (·.1)).Nodup := by
  obtain ⟨fs, rfl⟩ := exists_entriesOf hread
  rw [leftOver_entriesOf] at hread
  cases hread
  have hnames : (fs.map (·.1)).Nodup := by
    rw [entriesOf, List.map_map] at hkeys
    refine List.Nodup.of_map Key.text ?_
    rwa [List.map_map]
  exact hnames.sublist (List.filter_sublist.map _)

/-! ## What is written -/

/-- No name, label or plain, is that of two fields. -/
def Unambiguous (fields : List Spelled) : Prop :=
  (fields.map (·.label) ++ fields.map (·.plain)).Nodup

instance (fields : List Spelled) : Decidable (Unambiguous fields) :=
  inferInstanceAs (Decidable (List.Nodup _))

theorem Unambiguous.nodup_labels (h : Unambiguous fields) : (fields.map (·.label)).Nodup :=
  (List.nodup_append.1 h).1

theorem Unambiguous.plain_notMem (h : Unambiguous fields) {f : Spelled} (hf : f ∈ fields) :
    f.plain ∉ fields.map (·.label) := fun hmem =>
  (List.nodup_append.1 h).2.2 _ hmem _ (List.mem_map_of_mem hf) rfl

theorem Unambiguous.eq_of_plain (h : Unambiguous fields) {f g : Spelled} (hf : f ∈ fields)
    (hg : g ∈ fields) (hplain : f.plain = g.plain) : f = g :=
  List.inj_on_of_nodup_map (List.nodup_append.1 h).2.1 hf hg hplain

/-- The label of a field stands over a null, and its plain name over a value. -/
def MasksNull (fields : List Spelled) (es : Entries) : Prop :=
  ∃ f ∈ fields, Value.lookup f.label es = some .null ∧
    ∃ e ∈ es, e.1 = .text f.plain ∧ e.2 ≠ .null

instance (fields : List Spelled) (es : Entries) : Decidable (MasksNull fields es) :=
  inferInstanceAs (Decidable (∃ f ∈ fields, _ ∧ ∃ e ∈ es, _))

/-- The entries of a record with the given fields and left-over entries. -/
def dumpOf (ws : Fields) (extra : Extra) : Entries := entriesOf (present (ws ++ extra))

theorem writeRecord_dropped (ws : Fields) (extra : Extra) :
    writeRecord .dropped (ws ++ extra) = .mapping (dumpOf ws extra) := rfl

/-- A record was read from the entries `es`, and is written with the fields `ws`. -/
structure Rewritten (fields : List Spelled) (es : Entries) (ws : Fields) (extra : Extra) :
    Prop where
  unambiguous : Unambiguous fields
  /-- the fields are written under their labels, in their order -/
  labels : ws.map (·.1) = fields.map (·.label)
  leftOver : leftOver fields es = .ok extra
  /-- of what was given, null and nothing else is written as null -/
  null_iff : ∀ f ∈ fields, ∀ w, (f.label, w) ∈ ws →
    ∀ n u, f.find es = some (n, u) → (w = .null ↔ u = .null)

namespace Rewritten

variable {ws : Fields} {f : Spelled} {w : Value}

theorem name_mem (h : Rewritten fields es ws extra) (hmem : (name, w) ∈ ws) :
    name ∈ fields.map (·.label) := by
  rw [← h.labels]
  exact List.mem_map_of_mem hmem

theorem label_notMem (h : Rewritten fields es ws extra) (hf : f ∈ fields) :
    (f.label, v) ∉ extra :=
  label_notMem_of_leftOver h.leftOver hf

/-- Names that are no labels stand over left-over entries only. -/
theorem lookup_dump (h : Rewritten fields es ws extra) (hname : name ∉ fields.map (·.label)) :
    Value.lookup name (dumpOf ws extra) = (present extra).lookup name := by
  have hnone : (present ws).lookup name = none :=
    lookup_eq_none_of_notMem fun w hw => hname (h.name_mem (mem_present.1 hw).1)
  rw [dumpOf, lookup_entriesOf, present_append, List.lookup_append, hnone, Option.none_or]

theorem lookup_label_of_ne (h : Rewritten fields es ws extra) (hw : (f.label, w) ∈ ws)
    (hne : w ≠ .null) : Value.lookup f.label (dumpOf ws extra) = some w := by
  have hdistinct : (ws.map (·.1)).Nodup := h.labels ▸ h.unambiguous.nodup_labels
  have hpresent := lookup_present (lookup_eq_some_of_mem hdistinct hw) hne
  rw [dumpOf, lookup_entriesOf, present_append, List.lookup_append, hpresent, Option.some_or]

theorem lookup_label_of_null (h : Rewritten fields es ws extra) (hf : f ∈ fields)
    (hw : (f.label, .null) ∈ ws) : Value.lookup f.label (dumpOf ws extra) = none := by
  have hdistinct : (ws.map (·.1)).Nodup := h.labels ▸ h.unambiguous.nodup_labels
  rw [dumpOf, lookup_entriesOf]
  refine lookup_eq_none_of_notMem fun v hv => ?_
  obtain ⟨hmem, hne⟩ := mem_present.1 hv
  rcases List.mem_append.1 hmem with hmem | hmem
  · have hnull := lookup_eq_some_of_mem hdistinct hw
    rw [lookup_eq_some_of_mem hdistinct hmem] at hnull
    exact hne (Option.some.inj hnull)
  · exact h.label_notMem hf hmem

/-- What is not null is found under its label. -/
theorem find_of_ne (h : Rewritten fields es ws extra) (hw : (f.label, w) ∈ ws) (hne : w ≠ .null) :
    f.find (dumpOf ws extra) = some (f.label, w) :=
  Spelled.find_of_lookup (h.lookup_label_of_ne hw hne)

/-- A left-over entry comes back, if it is not null. -/
theorem lookup_of_leftOver (h : Rewritten fields es ws extra)
    (hfree : takenBy fields es name = false) (hv : Value.lookup name es = some v)
    (hne : v ≠ .null) : Value.lookup name (dumpOf ws extra) = some v := by
  have hname : name ∉ fields.map (·.label) := by
    intro hmem
    obtain ⟨f, hf, rfl⟩ := List.mem_map.1 hmem
    rw [takenBy_eq_true_iff.2 ⟨f, hf, .inl rfl⟩] at hfree
    cases hfree
  rw [h.lookup_dump hname]
  exact lookup_present ((lookup_leftOver h.leftOver hfree).trans hv) hne

/-! ### Without a masked null -/

/-- The plain name of a field that is written as null stands over nulls only. -/
theorem eq_null_of_plain (h : Rewritten fields es ws extra) (hmask : ¬ MasksNull fields es)
    (hf : f ∈ fields) (hw : (f.label, .null) ∈ ws) (hv : (f.plain, v) ∈ extra) : v = .null := by
  obtain ⟨hmem, hfree⟩ := (mem_leftOver_iff h.leftOver).1 hv
  by_contra hne
  cases hlabel : Value.lookup f.label es with
  | none =>
    rw [takenBy_eq_true_iff.2 ⟨f, hf, .inr ⟨rfl, hlabel⟩⟩] at hfree
    cases hfree
  | some u =>
    have hu : u = .null := (h.null_iff f hf _ hw _ _ (Spelled.find_of_lookup hlabel)).1 rfl
    subst hu
    exact hmask ⟨f, hf, hlabel, _, hmem, rfl, hne⟩

/-- What is null is not found. -/
theorem find_of_null (h : Rewritten fields es ws extra) (hmask : ¬ MasksNull fields es)
    (hf : f ∈ fields) (hw : (f.label, .null) ∈ ws) : f.find (dumpOf ws extra) = none := by
  have hplain : Value.lookup f.plain (dumpOf ws extra) = none := by
    rw [h.lookup_dump (h.unambiguous.plain_notMem hf)]
    refine lookup_eq_none_of_notMem fun v hv => ?_
    obtain ⟨hmem, hne⟩ := mem_present.1 hv
    exact hne (h.eq_null_of_plain hmask hf hw hmem)
  rw [Spelled.find, h.lookup_label_of_null hf hw, hplain]
  rfl

/-- Every field is written. -/
theorem exists_mem (h : Rewritten fields es ws extra) (hf : f ∈ fields) :
    ∃ w, (f.label, w) ∈ ws := by
  have hlabel : f.label ∈ ws.map (·.1) := h.labels ▸ List.mem_map_of_mem hf
  obtain ⟨⟨_, w⟩, hw, rfl⟩ := List.mem_map.1 hlabel
  exact ⟨w, hw⟩

/-- The left-over entries that were written are left over again. -/
theorem leftOver_dump (h : Rewritten fields es ws extra) (hmask : ¬ MasksNull fields es) :
    QuestFlow.leftOver fields (dumpOf ws extra) = .ok (present extra) := by
  have hfields : (present ws).filter (fun e => !takenBy fields (dumpOf ws extra) e.1) = [] := by
    refine List.filter_eq_nil_iff.2 fun (n, w) hw => ?_
    obtain ⟨f, hf, hlabel⟩ := List.mem_map.1 (h.name_mem (mem_present.1 hw).1)
    simp [takenBy_eq_true_iff.2 ⟨f, hf, .inl hlabel.symm⟩]
  have hextra : (present extra).filter (fun e => !takenBy fields (dumpOf ws extra) e.1) =
      present extra := by
    refine List.filter_eq_self.2 fun (n, v) hv => ?_
    obtain ⟨hmem, hne⟩ := mem_present.1 hv
    rw [Bool.not_eq_true', ← Bool.not_eq_true, takenBy_eq_true_iff]
    rintro ⟨f, hf, rfl | ⟨rfl, hlabel⟩⟩
    · exact h.label_notMem hf hmem
    · obtain ⟨w, hw⟩ := h.exists_mem hf
      by_cases hnull : w = .null
      · subst hnull
        exact hne (h.eq_null_of_plain hmask hf hw hmem)
      · rw [h.lookup_label_of_ne hw hnull] at hlabel
        cases hlabel
  rw [dumpOf] at hfields hextra ⊢
  rw [leftOver_entriesOf, present_append, List.filter_append, ← present_append, hfields, hextra]
  rfl

/-! ### With a masked null -/

/-- A masked null cannot come back: whatever is read from the written entries, it is not written as
these. -/
theorem dump_ne_of_masksNull {ws' : Fields} {extra' : Extra} (h : Rewritten fields es ws extra)
    (hmask : MasksNull fields es) (h' : Rewritten fields (dumpOf ws extra) ws' extra') :
    dumpOf ws' extra' ≠ dumpOf ws extra := by
  obtain ⟨f, hf, hlabel, ⟨_, v⟩, hmem, rfl, hne⟩ := hmask
  obtain ⟨w, hw⟩ := h.exists_mem hf
  have hw : (f.label, .null) ∈ ws := by
    rwa [← (h.null_iff f hf _ hw _ _ (Spelled.find_of_lookup hlabel)).2 rfl]
  -- the value under the plain name is left over, and so it is written
  have hfree : takenBy fields es f.plain = false := by
    rw [← Bool.not_eq_true, takenBy_eq_true_iff]
    rintro ⟨g, hg, hplain | ⟨hplain, hnone⟩⟩
    · exact h.unambiguous.plain_notMem hf (hplain ▸ List.mem_map_of_mem hg)
    · rw [h.unambiguous.eq_of_plain hf hg hplain, hnone] at hlabel
      cases hlabel
  have hwritten : (.text f.plain, v) ∈ dumpOf ws extra := by
    refine mem_entriesOf.2 (mem_present.2 ⟨List.mem_append_right _ ?_, hne⟩)
    exact (mem_leftOver_iff h.leftOver).2 ⟨hmem, hfree⟩
  -- when that is read, the field takes it, and it is written under the label
  intro heq
  rw [← heq] at hwritten
  obtain ⟨hagain, -⟩ := mem_present.1 (mem_entriesOf.1 hwritten)
  rcases List.mem_append.1 hagain with hagain | hagain
  · exact h.unambiguous.plain_notMem hf (h'.name_mem hagain)
  · have htaken := ((mem_leftOver_iff h'.leftOver).1 hagain).2
    rw [takenBy_eq_true_iff.2 ⟨f, hf, .inr ⟨rfl, h.lookup_label_of_null hf hw⟩⟩] at htaken
    cases htaken

end Rewritten
end QuestFlow

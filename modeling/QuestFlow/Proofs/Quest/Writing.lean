import QuestFlow.Proofs.Quest.Reading
import QuestFlow.Proofs.Quest.Records

/-!
# What a written document keeps

A document that is read as a quest and written again has changed in places: spellings have become
labels, numbers have become integers, absent fields have their fallbacks.  It has not changed in
others, and those are told here for each record of the document, wherever it stands
(`Value.HasRecord.exists_written`): there is a record of the same sort in the same place, its lists
of conditions and actions are the same to the last value, and so is each left-over entry that is not
null.

1. **One field.**  `FieldContent.Written` says what the written value keeps of the value that was
   read; `Writes` says that a reader and a writer fit together in this way.
2. **One record.**  `RecordWritten` collects the fields of a record in the order of
   `RecordSort.contents`.  There is one lemma for each sort.
3. **All records.**  A record that is written has written parts, so by induction from the outside
   inwards every record is.
-/

namespace QuestFlow

variable {α : Type} {read : Value → Checked α} {write : α → Value} {es : Entries} {c : FieldContent}
  {f : Spelled} {sort : RecordSort}

theorem Checked.value?_eq_some_iff {r : Checked α} {a : α} : r.value? = some a ↔ r = .ok a := by
  cases r <;> simp [Checked.value?]

/-- A value that is read as a record of the sort and then written. -/
def RecordSort.rewrite? : RecordSort → Value → Option Value
  | .quest, v => (Quest.read v).value?.map (·.write .dropped)
  | .node, v => (Node.read v).value?.map (·.write .dropped)
  | .option, v => (DialogOption.read v).value?.map (·.write .dropped)
  | .message, v => (DialogMessage.read v).value?.map (·.write .dropped)
  | .localized, v => (Localized.read v).value?.map (·.write .dropped)

/-- The type of a node is a text that its type field holds. -/
theorem Node.typeOf?_eq_some_iff {t : String} : Node.typeOf? (.mapping es) = some t ↔
    ∃ n, typeField.find es = some (n, .text t) := by
  rw [Node.typeOf?]
  rcases typeField.find es with _ | ⟨n, v⟩
  · simp
  · cases v <;> simp

/-! ## One field -/

/-- What is left of a value in a field when the field is written. -/
def FieldContent.Written : FieldContent → Value → Value → Prop
  | .plain, _, _ => True
  | .payloads, v, w => w = v
  | .record sort, v, w => sort.rewrite? v = some w
  | .records sort, v, w => ∃ vs ws, v = .list vs ∧ w = .list ws ∧
      List.Forall₂ (fun v w => sort.rewrite? v = some w) vs ws

/-- A reader that refuses null, and a writer that keeps what the content demands. -/
structure Writes (c : FieldContent) (read : Value → Checked α) (write : α → Value) : Prop where
  refuses_null : ∀ a, read .null ≠ .ok a
  ne_null : ∀ a, write a ≠ .null
  written : ∀ v a, read v = .ok a → c.Written v (write a)

/-- The entry is the field as it is written after it was read from `es`. -/
structure FieldWritten (es : Entries) (field : Spelled × FieldContent) (e : String × Value) :
    Prop where
  label : e.1 = field.1.label
  null_iff : ∀ n u, field.1.find es = some (n, u) → (e.2 = .null ↔ u = .null)
  written : ∀ n u, field.1.find es = some (n, u) → u ≠ .null → field.2.Written u e.2

theorem FieldWritten.of_required (hwrites : Writes c read write) {a : α}
    (hread : f.required read es = .ok a) : FieldWritten es (f, c) (f.label, write a) := by
  obtain ⟨n, v, hfind, hv⟩ := Spelled.required_eq_ok_iff.1 hread
  refine ⟨rfl, fun n' u hu => ?_, fun n' u hu _ => ?_⟩ <;> rw [hfind] at hu <;> cases hu
  · refine iff_of_false (hwrites.ne_null a) ?_
    rintro rfl
    exact hwrites.refuses_null a hv
  · exact hwrites.written v a hv

theorem FieldWritten.of_optional (hwrites : Writes c read write) {fallback a : α}
    (hread : f.optional read fallback es = .ok a) : FieldWritten es (f, c) (f.label, write a) := by
  rcases Spelled.optional_eq_ok_iff.1 hread with hfound | ⟨hnone, -⟩
  · exact .of_required hwrites (Spelled.required_eq_ok_iff.2 hfound)
  · refine ⟨rfl, fun n u hu => ?_, fun n u hu _ => ?_⟩ <;> rw [hnone] at hu <;> cases hu

/-- Where null is allowed, null is read as no value and anything else as before. -/
theorem Value.readNullable_eq_ok_iff {v : Value} {a : Option α} :
    Value.readNullable read v = .ok a ↔
      v = .null ∧ a = none ∨ v ≠ .null ∧ ∃ x, read v = .ok x ∧ a = some x := by
  cases v <;> simp [Value.readNullable, Checked.map_eq_ok_iff, @eq_comm _ a]

namespace Spelled

/-- What a field holds was read from some value, if its fallback can be. -/
theorem exists_read_of_optional {fallback a : α} (hread : f.optional read fallback es = .ok a)
    (hfallback : ∃ v, read v = .ok fallback) : ∃ v, read v = .ok a := by
  rcases Spelled.optional_eq_ok_iff.1 hread with ⟨_, v, -, hv⟩ | ⟨-, rfl⟩
  · exact ⟨v, hv⟩
  · exact hfallback

theorem exists_read_of_nullable {a : α}
    (hread : f.optional (Value.readNullable read) none es = .ok (some a)) :
    ∃ v, read v = .ok a := by
  obtain ⟨v, hv⟩ := exists_read_of_optional hread ⟨.null, rfl⟩
  rcases Value.readNullable_eq_ok_iff.1 hv with ⟨-, hnone⟩ | ⟨-, b, hb, hsome⟩
  · cases hnone
  · cases hsome
    exact ⟨v, hb⟩

end Spelled

theorem FieldWritten.of_nullable (hwrites : Writes c read write) {a : Option α}
    (hread : f.optional (Value.readNullable read) none es = .ok a) :
    FieldWritten es (f, c) (f.label, writeNullable write a) := by
  rcases Spelled.optional_eq_ok_iff.1 hread with ⟨n, v, hfind, hv⟩ | ⟨hnone, -⟩
  · refine ⟨rfl, fun n' u hu => ?_, fun n' u hu hne => ?_⟩ <;> rw [hfind] at hu <;> cases hu
    · rcases Value.readNullable_eq_ok_iff.1 hv with ⟨rfl, rfl⟩ | ⟨hne, x, -, rfl⟩
      · exact iff_of_true rfl rfl
      · exact iff_of_false (hwrites.ne_null x) hne
    · rcases Value.readNullable_eq_ok_iff.1 hv with ⟨rfl, -⟩ | ⟨-, x, hx, rfl⟩
      · exact absurd rfl hne
      · exact hwrites.written v x hx
  · refine ⟨rfl, fun n u hu => ?_, fun n u hu _ => ?_⟩ <;> rw [hnone] at hu <;> cases hu

theorem ofText?_eq_writeNullable (a : Option String) : Value.ofText? a = writeNullable .text a := by
  cases a <;> rfl

theorem ofInt?_eq_writeNullable (a : Option Int) : Value.ofInt? a = writeNullable .int a := by
  cases a <;> rfl

/-! ### The readers and writers there are -/

theorem Writes.plain (hnull : ∀ a, read .null ≠ .ok a) (hne : ∀ a, write a ≠ .null) :
    Writes .plain read write := ⟨hnull, hne, fun _ _ _ => trivial⟩

theorem writes_text : Writes .plain Value.readText .text := .plain nofun nofun

theorem writes_int : Writes .plain Value.readInt .int := .plain nofun nofun

theorem writes_targets : Writes .plain readTargets .ofInts := .plain nofun nofun

theorem writes_texts : Writes .plain (Value.readList Value.readText) .ofTexts := .plain nofun nofun

theorem writes_questId : Writes .plain Quest.readId .text := .plain nofun nofun

/-- A list of values that are kept as they are is written as it was read. -/
theorem eq_list_of_readList {ofValue : Value → α} {raw : α → Value}
    (hraw : ∀ v, raw (ofValue v) = v) {v : Value} {as : List α}
    (hread : Value.readList (fun v => .ok (ofValue v)) v = .ok as) :
    Value.list (as.map raw) = v := by
  obtain ⟨items, rfl, hitems⟩ := Value.readList_eq_ok_iff.1 hread
  clear hread
  congr 1
  induction hitems with
  | nil => rfl
  | cons hv _ ih =>
    cases hv
    rw [List.map_cons, hraw, ih]

theorem writes_conditions : Writes .payloads readConditions writeConditions where
  refuses_null := nofun
  ne_null := nofun
  written _ _ hread := eq_list_of_readList (fun _ => rfl) hread

theorem writes_actions : Writes .payloads readActions writeActions where
  refuses_null := nofun
  ne_null := nofun
  written _ _ hread := eq_list_of_readList (fun _ => rfl) hread

/-- A list of records is written record by record. -/
theorem Writes.list (hrecord : Writes (.record sort) read write) :
    Writes (.records sort) (Value.readList read) fun as => .list (as.map write) where
  refuses_null := nofun
  ne_null := nofun
  written v as hread := by
    obtain ⟨vs, rfl, hvs⟩ := Value.readList_eq_ok_iff.1 hread
    refine ⟨vs, as.map write, rfl, rfl, ?_⟩
    rw [List.forall₂_map_right_iff]
    exact hvs.imp fun v a hv => hrecord.written v a hv

theorem writes_localized : Writes (.record .localized) Localized.read (·.write .dropped) where
  refuses_null := nofun
  ne_null := nofun
  written v t hread := by
    rw [FieldContent.Written, RecordSort.rewrite?, hread]
    rfl

theorem writes_message : Writes (.record .message) DialogMessage.read (·.write .dropped) where
  refuses_null := nofun
  ne_null := nofun
  written v m hread := by
    rw [FieldContent.Written, RecordSort.rewrite?, hread]
    rfl

theorem writes_option : Writes (.record .option) DialogOption.read (·.write .dropped) where
  refuses_null := nofun
  ne_null := nofun
  written v o hread := by
    rw [FieldContent.Written, RecordSort.rewrite?, hread]
    rfl

theorem writes_node : Writes (.record .node) Node.read (·.write .dropped) where
  refuses_null := nofun
  ne_null := nofun
  written v n hread := by
    rw [FieldContent.Written, RecordSort.rewrite?, hread]
    rfl

/-! ## One record -/

/-- The partner of a member in a related list. -/
theorem exists_getElem?_of_forall₂ {β γ : Type} {R : β → γ → Prop} {as : List β} {bs : List γ}
    (h : List.Forall₂ R as bs) {i : Nat} {a : β} (ha : as[i]? = some a) :
    ∃ b, bs[i]? = some b ∧ R a b := by
  induction h generalizing i with
  | nil => cases ha
  | cons hab _ ih =>
    cases i with
    | zero =>
      cases ha
      exact ⟨_, rfl, hab⟩
    | succ i => exact ih ha

theorem exists_mem_of_forall₂ {β γ : Type} {R : β → γ → Prop} {as : List β} {bs : List γ}
    (h : List.Forall₂ R as bs) {a : β} (ha : a ∈ as) : ∃ b ∈ bs, R a b := by
  obtain ⟨i, hi⟩ := List.mem_iff_getElem?.1 ha
  obtain ⟨b, hb, hab⟩ := exists_getElem?_of_forall₂ h hi
  exact ⟨b, List.mem_of_getElem? hb, hab⟩

/-- The entries `es` of a record are written as the fields `ws`, and `extra` is left over. -/
structure RecordWritten (sort : RecordSort) (es : Entries) (ws : Fields) (extra : Extra) :
    Prop where
  contents : List.Forall₂ (FieldWritten es) (sort.contents es) ws
  leftOver : leftOver (sort.fields es) es = .ok extra

theorem RecordWritten.rewritten {ws : Fields} {extra : Extra}
    (h : RecordWritten sort es ws extra) : Rewritten (sort.fields es) es ws extra where
  unambiguous := sort.unambiguous es
  leftOver := h.leftOver
  labels := by
    have hlabels := h.contents.imp fun _ _ hfield => hfield.label
    clear h
    rw [RecordSort.fields, List.map_map]
    generalize sort.contents es = contents at hlabels
    induction hlabels with
    | nil => rfl
    | cons hlabel _ ih => rw [List.map_cons, List.map_cons, ih, hlabel]; rfl
  null_iff := by
    intro f hf w hw n u hu
    obtain ⟨⟨f', c⟩, hmem, hfield⟩ := exists_mem_of_forall₂ h.contents.flip hw
    have hf' : f' ∈ sort.fields es := List.mem_map_of_mem hmem
    -- no two fields have the label, so what is written is written for this one
    have heq : f = f' :=
      List.inj_on_of_nodup_map (sort.unambiguous es).nodup_labels hf hf' hfield.label
    exact hfield.null_iff n u (heq ▸ hu)

theorem Localized.recordWritten {t : Localized} (hread : Localized.read (.mapping es) = .ok t) :
    RecordWritten .localized es [("en-US", .text t.english), ("de-DE", .text t.german)]
      t.extra := by
  obtain ⟨_, hes, henglish, hgerman, hextra⟩ := Localized.read_eq_ok_iff.1 hread
  cases hes
  exact ⟨.cons (.of_optional writes_text henglish) (.cons (.of_optional writes_text hgerman) .nil),
    hextra⟩

theorem DialogMessage.recordWritten {m : DialogMessage}
    (hread : DialogMessage.read (.mapping es) = .ok m) :
    RecordWritten .message es [("Speaker", .text m.speaker), ("Text", m.text.write .dropped)]
      m.extra := by
  obtain ⟨_, hes, hspeaker, htext, hextra⟩ := DialogMessage.read_eq_ok_iff.1 hread
  cases hes
  exact ⟨.cons (.of_optional writes_text hspeaker)
    (.cons (.of_optional writes_localized htext) .nil), hextra⟩

theorem DialogOption.recordWritten {o : DialogOption}
    (hread : DialogOption.read (.mapping es) = .ok o) :
    RecordWritten .option es
      [("Text", o.text.write .dropped), ("Conditions", writeConditions o.conditions),
        ("NextNodes", .ofInts o.next)] o.extra := by
  obtain ⟨_, hes, htext, hconditions, hnext, hextra⟩ := DialogOption.read_eq_ok_iff.1 hread
  cases hes
  exact ⟨.cons (.of_optional writes_localized htext)
    (.cons (.of_optional writes_conditions hconditions)
      (.cons (.of_optional writes_targets hnext) .nil)), hextra⟩

theorem FlatEdges.contentsWritten {e : FlatEdges} (hread : FlatEdges.read es = .ok e) :
    List.Forall₂ (FieldWritten es) FlatEdges.contents (e.entries .dropped) := by
  obtain ⟨hnext, htrue, hfalse, hoptions⟩ := FlatEdges.read_eq_ok_iff.1 hread
  exact .cons (.of_optional writes_targets hnext) (.cons (.of_nullable writes_targets htrue)
    (.cons (.of_nullable writes_targets hfalse)
      (.cons (.of_nullable writes_option.list hoptions) .nil)))

theorem Speech.contentsWritten {s : Speech} (hread : Speech.read es = .ok s) :
    List.Forall₂ (FieldWritten es) Speech.contents (s.entries .dropped) := by
  obtain ⟨hpartner, hspeaker, htext⟩ := Speech.read_eq_ok_iff.1 hread
  exact .cons (.of_optional writes_text hpartner) (.cons (.of_optional writes_text hspeaker)
    (.cons (.of_nullable writes_localized htext) .nil))

namespace Body

variable {b : Body}

/-- Whatever text is written for the node type, it stands in the place of a text. -/
theorem typeWritten (htype : b.TypeFrom es) :
    FieldWritten es (typeField, .plain) ("NodeType", .text b.nodeType) := by
  have honly : ∀ first others,
      Writes .plain (Value.readOneOf first others) fun _ => Value.text b.nodeType := by
    intro first others
    exact .plain nofun nofun
  cases b with
  | decision type =>
    obtain ⟨t, ht, -⟩ := Checked.map_eq_ok_iff.1 htype
    exact .of_optional (honly _ _) ht
  | unmodelled => exact .of_required writes_text htype
  | _ => exact .of_optional (honly _ _) htype

theorem contentsWritten (htype : b.TypeFrom es) (hparts : b.PartsFrom es) :
    List.Forall₂ (FieldWritten es) b.variant.contents (b.entries .dropped) := by
  have htype := typeWritten htype
  cases b with
  | entryPoint edges =>
    exact List.rel_append (FlatEdges.contentsWritten hparts) (.cons htype .nil)
  | actions edges list =>
    obtain ⟨hedges, hlist⟩ := hparts
    exact List.rel_append (FlatEdges.contentsWritten hedges)
      (.cons htype (.cons (.of_optional writes_actions hlist) .nil))
  | dialog edges speech messages =>
    obtain ⟨hedges, hspeech, hmessages⟩ := hparts
    exact List.rel_append (List.rel_append (FlatEdges.contentsWritten hedges)
      (.cons htype (Speech.contentsWritten hspeech)))
      (.cons (.of_optional writes_message.list hmessages) .nil)
  | questProgress edges progressors =>
    obtain ⟨hedges, hprogressors⟩ := hparts
    exact List.rel_append (FlatEdges.contentsWritten hedges)
      (.cons htype (.cons (.of_optional writes_texts hprogressors) .nil))
  | decision type speech options strayNext =>
    obtain ⟨hspeech, hoptions, hnext⟩ := hparts
    exact .cons htype (List.rel_append (Speech.contentsWritten hspeech)
      (.cons (.of_optional writes_option.list hoptions)
        (.cons (.of_optional writes_targets hnext) .nil)))
  | conditionBranch required ifTrue ifFalse strayNext =>
    obtain ⟨hrequired, htrue, hfalse, hnext⟩ := hparts
    rw [entries, ofText?_eq_writeNullable]
    exact .cons htype (.cons (.of_nullable writes_text hrequired)
      (.cons (.of_optional writes_targets htrue) (.cons (.of_optional writes_targets hfalse)
        (.cons (.of_optional writes_targets hnext) .nil))))
  | unmodelled type next ifTrue ifFalse options =>
    obtain ⟨hnext, htrue, hfalse, hoptions⟩ := hparts
    exact .cons htype (.cons (.of_optional writes_targets hnext)
      (.cons (.of_optional writes_targets htrue) (.cons (.of_optional writes_targets hfalse)
        (.cons (.of_optional writes_option.list hoptions) .nil))))

/-- The node type that is written is the one that was given. -/
theorem nodeType_eq (htype : b.TypeFrom es) {t : String}
    (ht : Node.typeOf? (.mapping es) = some t) : b.nodeType = t := by
  obtain ⟨n, hfind⟩ := Node.typeOf?_eq_some_iff.1 ht
  have honly : ∀ {variant : Variant}, readOnlyType variant es = .ok variant.tag →
      variant.tag = t := by
    intro variant h
    rw [readOnlyType, Spelled.optional, hfind, Checked.under_eq_ok_iff, Value.readOneOf] at h
    split at h
    · cases h
      rfl
    · cases h
  cases b with
  | decision type =>
    obtain ⟨t', ht', hchoice⟩ := Checked.map_eq_ok_iff.1 htype
    rw [Spelled.optional, hfind, Checked.under_eq_ok_iff, Value.readOneOf] at ht'
    split at ht'
    · rename_i hmem
      cases ht'
      rcases List.mem_pair.1 hmem with rfl | rfl
      · rw [← hchoice]
        rfl
      · rw [← hchoice]
        rfl
    · cases ht'
  | unmodelled type =>
    rw [TypeFrom, Spelled.required, hfind, Checked.under_eq_ok_iff] at htype
    cases htype
    rfl
  | _ => exact honly htype

end Body

theorem Node.recordWritten {n : Node} {t : String} (ht : Node.typeOf? (.mapping es) = some t)
    (hread : Node.readEntries (.ofType t) es = .ok n) :
    RecordWritten .node es
        ([("NodeID", .int n.id), ("Conditions", writeConditions n.conditions)] ++
          n.body.entries .dropped) n.extra ∧
      n.body.nodeType = t := by
  obtain ⟨hid, hconditions, hbody, hextra⟩ := Node.readEntries_eq_ok_iff.1 hread
  obtain ⟨hvariant, htype, hparts⟩ := Body.read_eq_ok_iff.1 hbody
  have hselected : variantOf? es = some n.body.variant := by rw [variantOf?, ht, hvariant]; rfl
  refine ⟨⟨?_, ?_⟩, Body.nodeType_eq htype ht⟩
  · rw [RecordSort.contents, hselected]
    exact .cons (.of_required writes_int hid) (.cons (.of_optional writes_conditions hconditions)
      (Body.contentsWritten htype hparts))
  · rw [RecordSort.fields_node hselected, hvariant]
    exact hextra

theorem Quest.recordWritten {q : Quest} (hread : Quest.readEntries es = .ok q) :
    RecordWritten .quest es
      [("QuestID", .text q.id), ("DisplayName", q.displayName.write .dropped),
        ("QuestTypeVersion", .ofInt? q.typeVersion), ("QuestVersion", .ofInt? q.version),
        ("QuestType", .ofText? q.type), ("Repeatable", .ofText? q.repeatable),
        ("QuestNodes", .list (q.nodes.map (·.write .dropped)))] q.extra := by
  obtain ⟨hid, hname, htypeVersion, hversion, htype, hrepeatable, hnodes, hextra, -⟩ :=
    Quest.readEntries_eq_ok_iff.1 hread
  refine ⟨?_, hextra⟩
  rw [ofInt?_eq_writeNullable, ofInt?_eq_writeNullable, ofText?_eq_writeNullable,
    ofText?_eq_writeNullable]
  exact .cons (.of_required writes_questId hid) (.cons (.of_optional writes_localized hname)
    (.cons (.of_nullable writes_int htypeVersion) (.cons (.of_nullable writes_int hversion)
      (.cons (.of_nullable writes_text htype) (.cons (.of_nullable writes_text hrepeatable)
        (.cons (.of_optional writes_node.list hnodes) .nil))))))

/-- A written node selects the variant that it was read as. -/
theorem Node.typeOf?_dump {n : Node} {t : String} (ht : Node.typeOf? (.mapping es) = some t)
    (hread : Node.readEntries (.ofType t) es = .ok n) :
    Node.typeOf? (.mapping (dumpOf ([("NodeID", .int n.id),
      ("Conditions", writeConditions n.conditions)] ++ n.body.entries .dropped) n.extra)) =
        some t := by
  obtain ⟨hwritten, htype⟩ := Node.recordWritten ht hread
  have hmem : ("NodeType", Value.text t) ∈ n.body.entries .dropped := by
    rw [← htype]
    cases n.body <;> simp [Body.entries]
  refine Node.typeOf?_eq_some_iff.2 ⟨_, hwritten.rewritten.find_of_ne ?_ (by simp)⟩
  exact List.mem_append_right _ hmem

/-- **One record**: what is read as a record is written with the same fields, as `RecordWritten`
says. -/
theorem RecordSort.exists_written {w : Value} (h : sort.rewrite? (.mapping es) = some w) :
    ∃ ws extra, w = .mapping (dumpOf ws extra) ∧ RecordWritten sort es ws extra ∧
      sort.contents (dumpOf ws extra) = sort.contents es := by
  cases sort <;> simp only [rewrite?, Option.map_eq_some_iff, Checked.value?_eq_some_iff] at h <;>
    obtain ⟨a, hread, rfl⟩ := h
  case quest => exact ⟨_, _, rfl, Quest.recordWritten hread, rfl⟩
  case node =>
    obtain ⟨es', t, hes, ht, hentries⟩ := Node.read_eq_ok_iff.1 hread
    cases hes
    refine ⟨_, _, rfl, (Node.recordWritten ht hentries).1, ?_⟩
    rw [contents, contents, variantOf?, variantOf?, Node.typeOf?_dump ht hentries, ht]
  case option => exact ⟨_, _, rfl, DialogOption.recordWritten hread, rfl⟩
  case message => exact ⟨_, _, rfl, DialogMessage.recordWritten hread, rfl⟩
  case localized => exact ⟨_, _, rfl, Localized.recordWritten hread, rfl⟩

/-! ## All records -/

namespace Record

variable {r r' p : Record}

/-- The second record is what is written for the first, in the same place. -/
structure WrittenAs (r r' : Record) : Prop where
  path : r'.path = r.path
  sort : r'.sort = r.sort
  rewrite : r.sort.rewrite? (.mapping r.entries) = some (.mapping r'.entries)

/-- A written record has the same fields. -/
theorem WrittenAs.fields_eq (h : r.WrittenAs r') : r'.fields = r.fields := by
  obtain ⟨ws, extra, hes, -, hcontents⟩ := RecordSort.exists_written h.rewrite
  rw [fields, fields, RecordSort.fields, RecordSort.fields, h.sort, Value.mapping.inj hes,
    hcontents]

/-- What stands in a field, if it is not null, is written in the field. -/
theorem WrittenAs.exists_find (h : r.WrittenAs r') {c : FieldContent}
    (hf : (f, c) ∈ r.sort.contents r.entries) {n : String} {v : Value}
    (hfind : f.find r.entries = some (n, v)) (hv : v ≠ .null) :
    (f, c) ∈ r'.sort.contents r'.entries ∧
      ∃ w, f.find r'.entries = some (f.label, w) ∧ c.Written v w := by
  obtain ⟨ws, extra, hes, hwritten, hcontents⟩ := RecordSort.exists_written h.rewrite
  obtain ⟨⟨_, w⟩, hw, rfl, hnull, hkept⟩ := exists_mem_of_forall₂ hwritten.contents hf
  have hne : w ≠ .null := fun hw => hv ((hnull n v hfind).1 hw)
  -- the written record is of the same sort and selects the same variant, so it has the same fields
  rw [h.sort, Value.mapping.inj hes, hcontents]
  exact ⟨hf, w, hwritten.rewritten.find_of_ne hw hne, hkept n v hfind hv⟩

/-- **One step inwards**: the parts of a record are written as parts of the written record. -/
theorem WrittenAs.exists_part (h : r.WrittenAs r') (hp : p ∈ r.parts) :
    ∃ p' ∈ r'.parts, p.WrittenAs p' := by
  obtain ⟨f, c, n, v, hf, hfind, hp⟩ := mem_parts_iff.1 hp
  obtain ⟨es, ⟨rfl, rfl, hplace⟩ | ⟨rfl, items, i, rfl, hi, hplace⟩⟩ :=
    FieldContent.mem_recordsIn_iff.1 hp
  · -- the field holds the part alone
    obtain ⟨hf', w, hfind', hkept⟩ := h.exists_find hf hfind (by simp)
    obtain ⟨ws, extra, rfl, -⟩ := RecordSort.exists_written hkept
    refine ⟨⟨r'.path ++ [.field f.label], p.sort, dumpOf ws extra⟩, mem_parts_iff.2 ?_, ?_⟩
    · exact ⟨f, _, _, _, hf', hfind', FieldContent.mem_recordsIn_iff.2 ⟨_, .inl ⟨rfl, rfl, rfl⟩⟩⟩
    · rw [hplace, h.path]
      exact ⟨rfl, rfl, hkept⟩
  · -- the field holds a list, and the counterpart has the same index in the written one
    obtain ⟨hf', w, hfind', vs, ws, hvs, rfl, hall⟩ := h.exists_find hf hfind (by simp)
    cases hvs
    obtain ⟨w, hw, hkept⟩ := exists_getElem?_of_forall₂ hall hi
    obtain ⟨ws', extra, rfl, -⟩ := RecordSort.exists_written hkept
    refine ⟨⟨r'.path ++ [.field f.label] ++ [.index i], p.sort, dumpOf ws' extra⟩,
      mem_parts_iff.2 ?_, ?_⟩
    · exact ⟨f, _, _, _, hf', hfind',
        FieldContent.mem_recordsIn_iff.2 ⟨_, .inr ⟨rfl, ws, i, rfl, hw, rfl⟩⟩⟩
    · rw [hplace, h.path]
      exact ⟨rfl, rfl, hkept⟩

/-- The record `r'` says again what must not be lost of `r`: in the same place, the same lists of
conditions and actions, and whatever is left over and not null. -/
structure Restates (r' r : Record) : Prop where
  path : r'.path = r.path
  sort : r'.sort = r.sort
  fields : r'.fields = r.fields
  payloads : ∀ f, (f, .payloads) ∈ r.sort.contents r.entries →
    ∀ n items, f.find r.entries = some (n, .list items) →
      f.find r'.entries = some (f.label, .list items)
  leftOver : ∀ name v, takenBy r.fields r.entries name = false →
    Value.lookup name r.entries = some v → v ≠ .null → Value.lookup name r'.entries = some v

theorem WrittenAs.restates (h : r.WrittenAs r') : r'.Restates r where
  path := h.path
  sort := h.sort
  fields := h.fields_eq
  payloads f hf n items hfind := by
    obtain ⟨-, w, hfind', rfl⟩ := h.exists_find hf hfind (by simp)
    exact hfind'
  leftOver name v hfree hv hne := by
    obtain ⟨ws, extra, hes, hwritten, -⟩ := RecordSort.exists_written h.rewrite
    rw [Value.mapping.inj hes]
    exact hwritten.rewritten.lookup_of_leftOver hfree hv hne

end Record

/-- **All records**: each record of a document is written in its place. -/
theorem Value.HasRecord.exists_written {doc doc' : Value} {r : Record}
    (hdoc : RecordSort.quest.rewrite? doc = some doc') (h : doc.HasRecord r) :
    ∃ r', doc'.HasRecord r' ∧ r.WrittenAs r' := by
  induction h with
  | whole hmapping =>
    subst hmapping
    obtain ⟨ws, extra, rfl, -⟩ := RecordSort.exists_written hdoc
    exact ⟨_, .whole rfl, rfl, rfl, hdoc⟩
  | part _ hp ih =>
    obtain ⟨r', hr', hwritten⟩ := ih
    obtain ⟨p', hp', hpart⟩ := hwritten.exists_part hp
    exact ⟨p', .part hr' hp', hpart⟩

end QuestFlow

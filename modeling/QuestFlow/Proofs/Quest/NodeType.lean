import QuestFlow.Proofs.Document.Faults
import QuestFlow.Proofs.Quest.NullsKept

/-!
# The node type selects the variant

A mapping that is listed as a node is looked at twice.  First its type is taken from it, to tell the
variant; then it is read as that variant, and the type is read once more, as a field.  The two have
to agree for every mapping, and once more when the node was written.

1. **Variants** — `Variant.types` has the texts that select a variant; any other text selects the
   unmodelled one (`Variant.ofType_eq_iff`).
2. **The type given** — `Node.givenType?` is the value that counts: the one under the label, even a
   null one, and the one under the plain name only where there is no such entry.
3. **Blame** — the crux: once a text has selected the variant, the reader of that variant accepts
   this very text, so no fault lies in the type (`Body.elsewhere`, `Node.typeDecides`).
4. **Writing** — the one entry under the label that is written is the type
   (`Node.exists_write_eq`), so all of this holds of the written node as well.
5. **In a document** — the faults of a document at a node are those of the node
   (`Quest.filter_isAt_node`), and `nodeTypeTold` has all of it together.
-/

namespace QuestFlow

/-! ## Variants -/

/-- The texts that select a variant. -/
def Variant.types : Variant → List String
  | .decision => ["Decision", "PlayerDecisionDialog"]
  | .unmodelled => []
  | variant => [variant.tag]

theorem Variant.mem_types_iff {t : String} {variant : Variant} :
    t ∈ variant.types ↔ ofType t = variant ∧ variant ≠ .unmodelled := by
  constructor
  · intro ht
    cases variant with
    | decision => rcases List.mem_pair.1 ht with rfl | rfl <;> decide
    | unmodelled => cases ht
    | _ =>
      obtain rfl := List.mem_singleton.1 ht
      decide
  · rintro ⟨rfl, hmodelled⟩
    revert hmodelled
    rw [ofType]
    split_ifs <;> simp_all [types, tag]

/-- A text selects the variant that has it among its types, and the unmodelled one if none has. -/
theorem Variant.ofType_eq_iff {t : String} {variant : Variant} :
    ofType t = variant ↔
      t ∈ variant.types ∨ variant = .unmodelled ∧ ∀ v : Variant, t ∉ v.types := by
  simp only [mem_types_iff]
  constructor
  · rintro rfl
    by_cases hunmodelled : ofType t = .unmodelled
    · refine .inr ⟨hunmodelled, ?_⟩
      rintro v ⟨rfl, hmodelled⟩
      exact hmodelled hunmodelled
    · exact .inl ⟨rfl, hunmodelled⟩
  · rintro (⟨hselected, -⟩ | ⟨rfl, hnone⟩)
    · exact hselected
    · by_contra hmodelled
      exact hnone _ ⟨rfl, hmodelled⟩

/-! ## The type given -/

namespace Node

/-- The value that counts as the type of a node. -/
def givenType? (es : Entries) : Option Value :=
  (Value.lookup "NodeType" es).or (Value.lookup "node_type" es)

theorem typeOf?_eq_some_iff_given {es : Entries} {t : String} :
    typeOf? (.mapping es) = some t ↔ givenType? es = some (.text t) := by
  rw [typeOf?_eq_some_iff, givenType?]
  cases hlabel : Value.lookup "NodeType" es with
  | some v =>
    rw [Spelled.find_of_lookup (s := typeField) hlabel]
    simp
  | none =>
    have hfind : typeField.find es =
        (Value.lookup "node_type" es).map fun v => ("node_type", v) := by
      rw [Spelled.find]
      simp only [typeField, hlabel]
    rw [hfind]
    simp

end Node

/-- Where no text is given, no variant can be told. -/
theorem Node.read_of_not_given {es : Entries} (hgiven : ∀ t, givenType? es ≠ some (.text t)) :
    Node.read (.mapping es) = .fail .unknownVariant := by
  have htype : typeOf? (.mapping es) = none := by
    rw [Option.eq_none_iff_forall_ne_some]
    exact fun t ht => hgiven t (typeOf?_eq_some_iff_given.1 ht)
  rw [Node.read, htype]

/-! ## Blame -/

section Blame

variable {es : Entries} {t : String}

/-- The names of the fields of flat edges are none of the node type. -/
theorem FlatEdges.elsewhere : (FlatEdges.read es).Elsewhere typeField :=
  (((Checked.Elsewhere.optional (by decide)).map.seq (.optional (by decide))).seq
    (.optional (by decide))).seq (.optional (by decide))

theorem Speech.elsewhere : (Speech.read es).Elsewhere typeField :=
  ((Checked.Elsewhere.optional (by decide)).map.seq (.optional (by decide))).seq
    (.optional (by decide))

/-- The reader of the variant that a text selects accepts this text. -/
theorem Body.elsewhere (ht : Node.typeOf? (.mapping es) = some t) :
    (Body.read (.ofType t) es).Elsewhere typeField := by
  have honly : ∀ variant : Variant, variant.types = [variant.tag] → Variant.ofType t = variant →
      variant ≠ .unmodelled → (readOnlyType variant es).Elsewhere typeField := by
    intro variant htypes hselected hmodelled
    have hmem := Variant.mem_types_iff.2 ⟨hselected, hmodelled⟩
    rw [htypes] at hmem
    obtain rfl := List.mem_singleton.1 hmem
    rw [readOnlyType_of_typeOf? ht]
    exact .ok
  cases hvariant : Variant.ofType t with
  | entryPoint => exact FlatEdges.elsewhere.map.seq (honly _ rfl hvariant (by decide))
  | actions =>
    exact (FlatEdges.elsewhere.map.seq (honly _ rfl hvariant (by decide))).seq
      (.optional (by decide))
  | dialog =>
    exact ((FlatEdges.elsewhere.map.seq (honly _ rfl hvariant (by decide))).seq
      Speech.elsewhere).seq (.optional (by decide))
  | questProgress =>
    exact (FlatEdges.elsewhere.map.seq (honly _ rfl hvariant (by decide))).seq
      (.optional (by decide))
  | decision =>
    have htype : ∃ type : DecisionType, t = type.text := by
      have hmem := Variant.mem_types_iff.2 ⟨hvariant, by decide⟩
      rcases List.mem_pair.1 hmem with rfl | rfl
      · exact ⟨.decision, rfl⟩
      · exact ⟨.playerDialog, rfl⟩
    obtain ⟨type, rfl⟩ := htype
    have hread : (DecisionType.read es).Elsewhere typeField := by
      rw [DecisionType.read_of_typeOf? ht]
      exact .ok
    exact ((hread.map.seq Speech.elsewhere).seq (.optional (by decide))).seq
      (.optional (by decide))
  | conditionBranch =>
    exact ((((honly _ rfl hvariant (by decide)).map.seq (.optional (by decide))).seq
      (.optional (by decide))).seq (.optional (by decide))).seq (.optional (by decide))
  | unmodelled =>
    obtain ⟨name, hfind⟩ := Node.typeOf?_eq_some_iff.1 ht
    have htext : typeField.required Value.readText es = .ok t :=
      Spelled.required_eq_ok_iff.2 ⟨name, .text t, hfind, rfl⟩
    have hread : (typeField.required Value.readText es).Elsewhere typeField := by
      rw [htext]
      exact .ok
    exact (((hread.map.seq (.optional (by decide))).seq (.optional (by decide))).seq
      (.optional (by decide))).seq (.optional (by decide))

namespace Node

/-- What is known of the mapping `es` where the text `t` counts as its type. -/
structure TypeDecides (es : Entries) (t : String) : Prop where
  /-- it is read as the variant that the text selects, and whatever is wrong with it, the type is
  not -/
  blame : ∀ f ∈ (Node.read (.mapping es)).faults, ∃ step rest,
    f.path = .variant (Variant.ofType t).tag :: step :: rest ∧
      step ≠ .field "NodeType" ∧ step ≠ .field "node_type"
  /-- the node that is read is of that variant, and the text is its type -/
  read : ∀ n, Node.read (.mapping es) = .ok n → n.variant = .ofType t ∧ n.nodeType = t

theorem typeDecides (ht : typeOf? (.mapping es) = some t) : TypeDecides es t where
  blame := by
    have helsewhere : (readEntries (.ofType t) es).Elsewhere typeField :=
      (((Checked.Elsewhere.required (by decide)).map.seq (.optional (by decide))).seq
        (Body.elsewhere ht)).seq .leftOver
    intro f hf
    rw [Node.read, ht] at hf
    simp only [readAs, record, Checked.faults_under] at hf
    obtain ⟨inner, hinner, rfl⟩ := List.mem_map.1 hf
    obtain ⟨step, rest, hpath, hlabel, hplain⟩ := helsewhere inner hinner
    exact ⟨step, rest, congrArg _ hpath, hlabel, hplain⟩
  read := by
    intro n hread
    obtain ⟨_, t', hes, ht', hentries⟩ := read_eq_ok_iff.1 hread
    cases hes
    obtain rfl := Option.some.inj (ht.symm.trans ht')
    obtain ⟨-, -, hbody, -⟩ := readEntries_eq_ok_iff.1 hentries
    obtain ⟨hvariant, htype, -⟩ := Body.read_eq_ok_iff.1 hbody
    exact ⟨hvariant, Body.nodeType_eq htype ht⟩

end Node

end Blame

/-! ## Writing -/

namespace Node

variable {es : Entries} {n : Node}

theorem mem_entries_iff (hread : Node.read (.mapping es) = .ok n) (nulls : Nulls) {v : Value} :
    ("NodeType", v) ∈ n.entries nulls ↔ v = .text n.nodeType := by
  obtain ⟨_, t, hes, ht, hentries⟩ := read_eq_ok_iff.1 hread
  cases hes
  obtain ⟨-, -, -, hextra⟩ := readEntries_eq_ok_iff.1 hentries
  have hfield : typeField ∈ fieldsOf (.ofType t) := by
    cases Variant.ofType t <;> decide
  have hleft : ("NodeType", v) ∉ n.extra := label_notMem_of_leftOver hextra hfield
  have hbody : ("NodeType", v) ∈ n.body.entries nulls ↔ v = .text n.nodeType := by
    rw [nodeType]
    cases n.body <;> simp [Body.entries, FlatEdges.entries, Speech.entries]
  simp [entries, hleft, hbody]

/-- The type is written under its label, and nothing else is. -/
theorem exists_write_eq (hread : Node.read (.mapping es) = .ok n) (nulls : Nulls) :
    ∃ es', n.write nulls = .mapping es' ∧
      ∀ v, (.text "NodeType", v) ∈ es' ↔ v = .text n.nodeType := by
  have hentries := fun v => mem_entries_iff hread nulls (v := v)
  cases nulls with
  | kept => exact ⟨entriesOf (n.entries .kept), rfl, fun v => mem_entriesOf.trans (hentries v)⟩
  | dropped =>
    refine ⟨entriesOf (present (n.entries .dropped)), rfl, fun v => ?_⟩
    rw [mem_entriesOf, mem_present, hentries, and_iff_left_iff_imp]
    rintro rfl
    exact nofun

/-- An entry that is the only one under its key is the one that is found. -/
theorem lookup_eq_some_of_only {name : String} {v : Value}
    (honly : ∀ u, (.text name, u) ∈ es ↔ u = v) : Value.lookup name es = some v := by
  cases hlookup : Value.lookup name es with
  | none => exact absurd ((honly v).2 rfl) (notMem_of_lookup_eq_none hlookup)
  | some u =>
    obtain ⟨before, after, rfl, -⟩ := List.lookup_eq_some_iff.1 hlookup
    rw [(honly u).1 (List.mem_append_right _ List.mem_cons_self)]

end Node

/-! ## In a document -/

namespace Quest

variable {ds : Entries} {name : String} {i : Nat} {v : Value}

/-- The value is listed among the nodes of a quest, at the index, under one name of the field. -/
def Lists (ds : Entries) (name : String) (i : Nat) (v : Value) : Prop :=
  ∃ items, nodesField.find ds = some (name, .list items) ∧ items[i]? = some v

/-- The faults of a document at one of its nodes are those of the node. -/
theorem filter_isAt_node (h : Lists ds name i v) :
    (readEntries ds).faults.filter (·.isAt [.field name, .index i]) =
      (Node.read v).faults.map fun f => (f.under (.index i)).under (.field name) := by
  obtain ⟨items, hfind, hv⟩ := h
  have hname : name ∈ [nodesField.label, nodesField.plain] := Spelled.name_mem_of_find hfind
  rw [readEntries]
  refine (Checked.Elsewhere.leftOver.filter_seq_isAt hname _ _).trans ?_
  refine (Checked.Elsewhere.filter_isAt_seq ?_ hname _ _).trans ?_
  · exact (((((Checked.Elsewhere.required (by decide)).map.seq (.optional (by decide))).seq
      (.optional (by decide))).seq (.optional (by decide))).seq (.optional (by decide))).seq
      (.optional (by decide))
  · have hitem := filter_isAt_readList Node.read hv []
    rw [Spelled.optional, hfind, Checked.faults_under, filter_isAt_under, hitem]
    simp

/-- What is known of a mapping that is listed as a node of a quest document. -/
structure NodeTold (ds : Entries) (name : String) (i : Nat) (es : Entries) : Prop where
  /-- without a text as its type, the document is refused, and this is all that is wrong with it -/
  refused : (∀ t, Node.givenType? es ≠ some (.text t)) → ∀ source, ∃ faults,
    ofDocument (.mapping ds) source = .error (.faulty faults) ∧
      faults.filter (·.isAt [.field name, .index i]) = [⟨[.field name, .index i], .unknownVariant⟩]
  /-- with a text the document may be refused, but not for the type -/
  blame : ∀ t, Node.givenType? es = some (.text t) → ∀ source faults,
    ofDocument (.mapping ds) source = .error (.faulty faults) →
      ∀ f ∈ faults, f.isAt [.field name, .index i] = true → ∃ step rest,
        f.path = .field name :: .index i :: .variant (Variant.ofType t).tag :: step :: rest ∧
          step ≠ .field "NodeType" ∧ step ≠ .field "node_type"
  /-- if it is accepted, the mapping has been read as one of its nodes -/
  read : ∀ source q, ofDocument (.mapping ds) source = .ok q →
    ∃ n, q.nodes[i]? = some n ∧ Node.read (.mapping es) = .ok n

theorem nodeTold {es : Entries} (h : Lists ds name i (.mapping es)) : NodeTold ds name i es where
  refused := by
    intro hgiven source
    have hfaults : (readEntries ds).faults.filter (·.isAt [.field name, .index i]) =
        [⟨[.field name, .index i], .unknownVariant⟩] := by
      rw [filter_isAt_node h, Node.read_of_not_given hgiven]
      rfl
    have hmem : ⟨[.field name, .index i], .unknownVariant⟩ ∈
        (readEntries ds).faults.filter (·.isAt [.field name, .index i]) := by
      rw [hfaults]
      exact List.mem_singleton_self _
    refine ⟨(readEntries ds).faults, ?_, hfaults⟩
    rw [ofDocument, Checked.eq_faulty_of_mem (List.mem_filter.1 hmem).1]
    rfl
  blame := by
    intro t ht source faults hdoc f hf hat
    have hread : (readEntries ds).faults = faults := by
      rw [ofDocument] at hdoc
      split at hdoc
      · cases hdoc
      next hfaulty =>
        cases hdoc
        rw [hfaulty]
        rfl
    have hmem : f ∈ (readEntries ds).faults.filter (·.isAt [.field name, .index i]) :=
      List.mem_filter.2 ⟨hread ▸ hf, hat⟩
    rw [filter_isAt_node h] at hmem
    obtain ⟨inner, hinner, rfl⟩ := List.mem_map.1 hmem
    have hdecides := Node.typeDecides (Node.typeOf?_eq_some_iff_given.2 ht)
    obtain ⟨step, rest, hpath, hlabel, hplain⟩ := hdecides.blame inner hinner
    exact ⟨step, rest, by rw [Fault.under, Fault.under, hpath], hlabel, hplain⟩
  read := by
    intro source q hdoc
    obtain ⟨items, hfind, hv⟩ := h
    obtain ⟨_, q, hes, hentries, rfl⟩ := ofDocument_eq_ok_iff.1 hdoc
    cases hes
    obtain ⟨-, -, -, -, -, -, hnodes, -, -⟩ := readEntries_eq_ok_iff.1 hentries
    rw [Spelled.optional, hfind, Checked.under_eq_ok_iff] at hnodes
    obtain ⟨_, hitems, hall⟩ := Value.readList_eq_ok_iff.1 hnodes
    cases hitems
    exact exists_getElem?_of_forall₂ hall hv

end Quest

/-- The type that a mapping gives, as a node of a quest. -/
structure NodeTypeTold (es : Entries) : Prop where
  /-- which text selects which variant -/
  selects : ∀ t variant, Variant.ofType t = variant ↔
    t ∈ variant.types ∨ variant = .unmodelled ∧ ∀ v : Variant, t ∉ v.types
  /-- without a text for the type, no variant can be told -/
  refused : (∀ t, Node.givenType? es ≠ some (.text t)) →
    Node.read (.mapping es) = .fail .unknownVariant
  /-- a text decides, whatever else there is -/
  decides : ∀ t, Node.givenType? es = some (.text t) → Node.TypeDecides es t
  /-- the written node has the type under the label and nothing else there, and it decides again -/
  written : ∀ n, Node.read (.mapping es) = .ok n → ∀ nulls, ∃ es', n.write nulls = .mapping es' ∧
    (∀ v, (.text "NodeType", v) ∈ es' ↔ v = .text n.nodeType) ∧ Node.TypeDecides es' n.nodeType
  /-- the node that is written with its nulls is read as itself -/
  read_kept : ∀ n, Node.read (.mapping es) = .ok n → Node.read (n.write .kept) = .ok n
  /-- without its nulls too, if it masks none -/
  read_dropped : ∀ n, Node.read (.mapping es) = .ok n →
    ¬MasksNull (RecordSort.node.fields es) es → Node.read (n.write .dropped) = .ok n.tidy
  /-- and all this in any document that lists the mapping as a node -/
  listed : ∀ ds name i, Quest.Lists ds name i (.mapping es) → Quest.NodeTold ds name i es

/-- **The node type selects the variant**, and is never at fault. -/
theorem nodeTypeTold (es : Entries) : NodeTypeTold es where
  selects _ _ := Variant.ofType_eq_iff
  refused := Node.read_of_not_given
  decides _ ht := Node.typeDecides (Node.typeOf?_eq_some_iff_given.2 ht)
  written := by
    intro n hread nulls
    obtain ⟨es', hwrite, honly⟩ := Node.exists_write_eq hread nulls
    have hgiven : Node.givenType? es' = some (.text n.nodeType) := by
      rw [Node.givenType?, Node.lookup_eq_some_of_only honly, Option.some_or]
    exact ⟨es', hwrite, honly, Node.typeDecides (Node.typeOf?_eq_some_iff_given.2 hgiven)⟩
  read_kept _ hread := Node.read_write_kept hread
  read_dropped _ hread hmask := Node.read_write hmask hread
  listed _ _ _ h := Quest.nodeTold h

example : Node.read (.ofFields [("NodeID", .int 1), ("NodeType", .null),
    ("node_type", .text "Dialog")]) = .fail .unknownVariant := by
  decide

end QuestFlow

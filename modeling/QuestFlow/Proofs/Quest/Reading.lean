import QuestFlow.Proofs.Document.Reading
import QuestFlow.Quest.Basic

/-!
# When a record is read

A record is read field by field, and reading it succeeds when reading each field does.  Here this is
said once for each sort of record, as an equivalence: from left to right it takes a successful
reading apart, from right to left it puts one together.

A body is read in two parts.  `Body.TypeFrom` is about the node type alone, which has to fit the
variant, and `Body.PartsFrom` about the fields that the variant has.
-/

namespace QuestFlow

variable {es : Entries} {v : Value}

theorem Localized.read_eq_ok_iff {t : Localized} : Localized.read v = .ok t ↔
    ∃ es, v = .mapping es ∧ englishField.optional Value.readText "" es = .ok t.english ∧
      germanField.optional Value.readText "" es = .ok t.german ∧
      leftOver fields es = .ok t.extra := by
  cases v with
  | mapping es =>
    simp only [read, record, Checked.seq_eq_ok_iff, Checked.map_eq_ok_iff]
    constructor
    · rintro ⟨_, _, ⟨_, _, ⟨_, henglish, rfl⟩, hgerman, rfl⟩, hextra, rfl⟩
      exact ⟨es, rfl, henglish, hgerman, hextra⟩
    · rintro ⟨_, hes, henglish, hgerman, hextra⟩
      cases hes
      exact ⟨_, _, ⟨_, _, ⟨_, henglish, rfl⟩, hgerman, rfl⟩, hextra, rfl⟩
  | _ => simp [read, record, Checked.fail]

theorem DialogMessage.read_eq_ok_iff {m : DialogMessage} : DialogMessage.read v = .ok m ↔
    ∃ es, v = .mapping es ∧ speakerField.optional Value.readText "" es = .ok m.speaker ∧
      textField.optional Localized.read {} es = .ok m.text ∧
      leftOver fields es = .ok m.extra := by
  cases v with
  | mapping es =>
    simp only [read, record, Checked.seq_eq_ok_iff, Checked.map_eq_ok_iff]
    constructor
    · rintro ⟨_, _, ⟨_, _, ⟨_, hspeaker, rfl⟩, htext, rfl⟩, hextra, rfl⟩
      exact ⟨es, rfl, hspeaker, htext, hextra⟩
    · rintro ⟨_, hes, hspeaker, htext, hextra⟩
      cases hes
      exact ⟨_, _, ⟨_, _, ⟨_, hspeaker, rfl⟩, htext, rfl⟩, hextra, rfl⟩
  | _ => simp [read, record, Checked.fail]

theorem DialogOption.read_eq_ok_iff {o : DialogOption} : DialogOption.read v = .ok o ↔
    ∃ es, v = .mapping es ∧ textField.optional Localized.read {} es = .ok o.text ∧
      conditionsField.optional readConditions [] es = .ok o.conditions ∧
      nextField.optional readTargets [] es = .ok o.next ∧
      leftOver fields es = .ok o.extra := by
  cases v with
  | mapping es =>
    simp only [read, record, Checked.seq_eq_ok_iff, Checked.map_eq_ok_iff]
    constructor
    · rintro ⟨_, _, ⟨_, _, ⟨_, _, ⟨_, htext, rfl⟩, hconditions, rfl⟩, hnext, rfl⟩, hextra, rfl⟩
      exact ⟨es, rfl, htext, hconditions, hnext, hextra⟩
    · rintro ⟨_, hes, htext, hconditions, hnext, hextra⟩
      cases hes
      exact ⟨_, _, ⟨_, _, ⟨_, _, ⟨_, htext, rfl⟩, hconditions, rfl⟩, hnext, rfl⟩, hextra, rfl⟩
  | _ => simp [read, record, Checked.fail]

/-! ## Bodies -/

/-- A flat body is read when each of its fields is. -/
theorem FlatEdges.read_eq_ok_iff {e : FlatEdges} : FlatEdges.read es = .ok e ↔
    nextField.optional readTargets [] es = .ok e.next ∧
    strayIfTrueField.optional (Value.readNullable readTargets) none es = .ok e.strayIfTrue ∧
    strayIfFalseField.optional (Value.readNullable readTargets) none es = .ok e.strayIfFalse ∧
    strayOptionsField.optional (Value.readNullable readOptions) none es = .ok e.strayOptions := by
  simp only [FlatEdges.read, Checked.seq_eq_ok_iff, Checked.map_eq_ok_iff]
  constructor
  · rintro ⟨_, _, ⟨_, _, ⟨_, _, ⟨_, hnext, rfl⟩, htrue, rfl⟩, hfalse, rfl⟩, hoptions, rfl⟩
    exact ⟨hnext, htrue, hfalse, hoptions⟩
  · rintro ⟨hnext, htrue, hfalse, hoptions⟩
    exact ⟨_, _, ⟨_, _, ⟨_, _, ⟨_, hnext, rfl⟩, htrue, rfl⟩, hfalse, rfl⟩, hoptions, rfl⟩

theorem Speech.read_eq_ok_iff {s : Speech} : Speech.read es = .ok s ↔
    partnerField.optional Value.readText "" es = .ok s.partner ∧
    speakerField.optional Value.readText "" es = .ok s.speaker ∧
    textField.optional (Value.readNullable Localized.read) none es = .ok s.text := by
  simp only [Speech.read, Checked.seq_eq_ok_iff, Checked.map_eq_ok_iff]
  constructor
  · rintro ⟨_, _, ⟨_, _, ⟨_, hpartner, rfl⟩, hspeaker, rfl⟩, htext, rfl⟩
    exact ⟨hpartner, hspeaker, htext⟩
  · rintro ⟨hpartner, hspeaker, htext⟩
    exact ⟨_, _, ⟨_, _, ⟨_, hpartner, rfl⟩, hspeaker, rfl⟩, htext, rfl⟩

namespace Body

variable {variant : Variant} {b : Body}

/-- The node type among the entries is that of the body. -/
def TypeFrom (es : Entries) : Body → Prop
  | .decision type .. => DecisionType.read es = .ok type
  | .unmodelled type .. => typeField.required Value.readText es = .ok type
  | b => readOnlyType b.variant es = .ok b.variant.tag

/-- The parts of the body stand in the fields of its variant. -/
def PartsFrom (es : Entries) : Body → Prop
  | .entryPoint edges => FlatEdges.read es = .ok edges
  | .actions edges list =>
    FlatEdges.read es = .ok edges ∧ actionsField.optional readActions [] es = .ok list
  | .dialog edges speech messages =>
    FlatEdges.read es = .ok edges ∧ Speech.read es = .ok speech ∧
      messagesField.optional (Value.readList DialogMessage.read) [] es = .ok messages
  | .questProgress edges progressors =>
    FlatEdges.read es = .ok edges ∧
      progressorsField.optional (Value.readList Value.readText) [] es = .ok progressors
  | .decision _ speech options strayNext =>
    Speech.read es = .ok speech ∧ optionsField.optional readOptions [] es = .ok options ∧
      strayNextField.optional readTargets [] es = .ok strayNext
  | .conditionBranch required ifTrue ifFalse strayNext =>
    requiredField.optional (Value.readNullable Value.readText) none es = .ok required ∧
      ifTrueField.optional readTargets [] es = .ok ifTrue ∧
      ifFalseField.optional readTargets [] es = .ok ifFalse ∧
      strayNextField.optional readTargets [] es = .ok strayNext
  | .unmodelled _ next ifTrue ifFalse options =>
    nextField.optional readTargets [] es = .ok next ∧
      ifTrueField.optional readTargets [] es = .ok ifTrue ∧
      ifFalseField.optional readTargets [] es = .ok ifFalse ∧
      optionsField.optional readOptions [] es = .ok options

/-- A variant with a single node type can only be read with that type. -/
theorem eq_tag_of_readOnlyType {t : String} (hread : readOnlyType variant es = .ok t) :
    t = variant.tag := by
  have honly : ∀ {w : Value}, Value.readOneOf variant.tag [] w = .ok t → t = variant.tag := by
    intro w hw
    cases w with
    | text s =>
      rw [Value.readOneOf] at hw
      split at hw
      · rename_i hs
        cases hw
        exact List.mem_singleton.1 hs
      · cases hw
    | _ => cases hw
  rw [readOnlyType, Spelled.optional] at hread
  split at hread
  · exact honly (Checked.under_eq_ok_iff.1 hread)
  · cases hread
    rfl

/-- **When a body is read**: its variant is the given one, and both the node type and the parts come
from the entries. -/
theorem read_eq_ok_iff : Body.read variant es = .ok b ↔
    b.variant = variant ∧ b.TypeFrom es ∧ b.PartsFrom es := by
  have htag : ∀ {v t}, readOnlyType v es = .ok t → readOnlyType v es = .ok v.tag := by
    intro v t ht
    rw [ht, eq_tag_of_readOnlyType ht]
  constructor
  · intro hread
    cases variant <;> simp only [Body.read, Checked.seq_eq_ok_iff, Checked.map_eq_ok_iff] at hread
    case entryPoint =>
      obtain ⟨_, _, ⟨_, hedges, rfl⟩, htype, rfl⟩ := hread
      exact ⟨rfl, htag htype, hedges⟩
    case actions =>
      obtain ⟨_, _, ⟨_, _, ⟨_, hedges, rfl⟩, htype, rfl⟩, hlist, rfl⟩ := hread
      exact ⟨rfl, htag htype, hedges, hlist⟩
    case dialog =>
      obtain ⟨_, _, ⟨_, _, ⟨_, _, ⟨_, hedges, rfl⟩, htype, rfl⟩, hspeech, rfl⟩, hmessages,
        rfl⟩ := hread
      exact ⟨rfl, htag htype, hedges, hspeech, hmessages⟩
    case questProgress =>
      obtain ⟨_, _, ⟨_, _, ⟨_, hedges, rfl⟩, htype, rfl⟩, hprogressors, rfl⟩ := hread
      exact ⟨rfl, htag htype, hedges, hprogressors⟩
    case decision =>
      obtain ⟨_, _, ⟨_, _, ⟨_, _, ⟨_, htype, rfl⟩, hspeech, rfl⟩, hoptions, rfl⟩, hnext,
        rfl⟩ := hread
      exact ⟨rfl, htype, hspeech, hoptions, hnext⟩
    case conditionBranch =>
      obtain ⟨_, _, ⟨_, _, ⟨_, _, ⟨_, _, ⟨_, htype, rfl⟩, hrequired, rfl⟩, htrue, rfl⟩, hfalse,
        rfl⟩, hnext, rfl⟩ := hread
      exact ⟨rfl, htag htype, hrequired, htrue, hfalse, hnext⟩
    case unmodelled =>
      obtain ⟨_, _, ⟨_, _, ⟨_, _, ⟨_, _, ⟨_, htype, rfl⟩, hnext, rfl⟩, htrue, rfl⟩, hfalse, rfl⟩,
        hoptions, rfl⟩ := hread
      exact ⟨rfl, htype, hnext, htrue, hfalse, hoptions⟩
  · rintro ⟨rfl, htype, hparts⟩
    cases b <;> simp only [variant, Body.read, Checked.seq_eq_ok_iff, Checked.map_eq_ok_iff]
    case entryPoint => exact ⟨_, _, ⟨_, hparts, rfl⟩, htype, rfl⟩
    case actions =>
      obtain ⟨hedges, hlist⟩ := hparts
      exact ⟨_, _, ⟨_, _, ⟨_, hedges, rfl⟩, htype, rfl⟩, hlist, rfl⟩
    case dialog =>
      obtain ⟨hedges, hspeech, hmessages⟩ := hparts
      exact ⟨_, _, ⟨_, _, ⟨_, _, ⟨_, hedges, rfl⟩, htype, rfl⟩, hspeech, rfl⟩, hmessages, rfl⟩
    case questProgress =>
      obtain ⟨hedges, hprogressors⟩ := hparts
      exact ⟨_, _, ⟨_, _, ⟨_, hedges, rfl⟩, htype, rfl⟩, hprogressors, rfl⟩
    case decision =>
      obtain ⟨hspeech, hoptions, hnext⟩ := hparts
      exact ⟨_, _, ⟨_, _, ⟨_, _, ⟨_, htype, rfl⟩, hspeech, rfl⟩, hoptions, rfl⟩, hnext, rfl⟩
    case conditionBranch =>
      obtain ⟨hrequired, htrue, hfalse, hnext⟩ := hparts
      exact ⟨_, _, ⟨_, _, ⟨_, _, ⟨_, _, ⟨_, htype, rfl⟩, hrequired, rfl⟩, htrue, rfl⟩, hfalse, rfl⟩,
        hnext, rfl⟩
    case unmodelled =>
      obtain ⟨hnext, htrue, hfalse, hoptions⟩ := hparts
      exact ⟨_, _, ⟨_, _, ⟨_, _, ⟨_, _, ⟨_, htype, rfl⟩, hnext, rfl⟩, htrue, rfl⟩, hfalse, rfl⟩,
        hoptions, rfl⟩

end Body

/-! ## Nodes and quests -/

namespace Node

variable {n : Node}

theorem readEntries_eq_ok_iff {variant : Variant} : readEntries variant es = .ok n ↔
    idField.required Value.readInt es = .ok n.id ∧
    conditionsField.optional readConditions [] es = .ok n.conditions ∧
    Body.read variant es = .ok n.body ∧ leftOver (fieldsOf variant) es = .ok n.extra := by
  simp only [readEntries, Checked.seq_eq_ok_iff, Checked.map_eq_ok_iff]
  constructor
  · rintro ⟨_, _, ⟨_, _, ⟨_, _, ⟨_, hid, rfl⟩, hconditions, rfl⟩, hbody, rfl⟩, hextra, rfl⟩
    exact ⟨hid, hconditions, hbody, hextra⟩
  · rintro ⟨hid, hconditions, hbody, hextra⟩
    exact ⟨_, _, ⟨_, _, ⟨_, _, ⟨_, hid, rfl⟩, hconditions, rfl⟩, hbody, rfl⟩, hextra, rfl⟩

/-- A node is read when its type is a text and its entries are read as the variant of that type. -/
theorem read_eq_ok_iff : Node.read v = .ok n ↔
    ∃ es t, v = .mapping es ∧ typeOf? (.mapping es) = some t ∧
      readEntries (.ofType t) es = .ok n := by
  rw [Node.read]
  cases v with
  | mapping es =>
    cases htype : typeOf? (.mapping es) with
    | none => simp [Checked.fail, htype]
    | some t =>
      rw [Checked.under_eq_ok_iff, readAs, record]
      constructor
      · exact fun hread => ⟨es, t, rfl, htype, hread⟩
      · rintro ⟨es', t', hes, htype', hread⟩
        cases hes
        rw [htype] at htype'
        cases htype'
        exact hread
  | _ => simp [typeOf?, Checked.fail]

end Node

namespace Quest

variable {q : Quest}

theorem readEntries_eq_ok_iff : readEntries es = .ok q ↔
    questIdField.required readId es = .ok q.id ∧
    displayNameField.optional Localized.read {} es = .ok q.displayName ∧
    typeVersionField.optional (Value.readNullable Value.readInt) none es = .ok q.typeVersion ∧
    versionField.optional (Value.readNullable Value.readInt) none es = .ok q.version ∧
    questTypeField.optional (Value.readNullable Value.readText) none es = .ok q.type ∧
    repeatableField.optional (Value.readNullable Value.readText) none es = .ok q.repeatable ∧
    nodesField.optional (Value.readList Node.read) [] es = .ok q.nodes ∧
    leftOver fields es = .ok q.extra ∧ q.source = none := by
  simp only [readEntries, Checked.seq_eq_ok_iff, Checked.map_eq_ok_iff]
  constructor
  · rintro ⟨_, _, ⟨_, _, ⟨_, _, ⟨_, _, ⟨_, _, ⟨_, _, ⟨_, _, ⟨_, hid, rfl⟩, hname, rfl⟩,
      htypeVersion, rfl⟩, hversion, rfl⟩, htype, rfl⟩, hrepeatable, rfl⟩, hnodes, rfl⟩, hextra,
      rfl⟩
    exact ⟨hid, hname, htypeVersion, hversion, htype, hrepeatable, hnodes, hextra, rfl⟩
  · rintro ⟨hid, hname, htypeVersion, hversion, htype, hrepeatable, hnodes, hextra, hsource⟩
    refine ⟨_, _, ⟨_, _, ⟨_, _, ⟨_, _, ⟨_, _, ⟨_, _, ⟨_, _, ⟨_, hid, rfl⟩, hname, rfl⟩,
      htypeVersion, rfl⟩, hversion, rfl⟩, htype, rfl⟩, hrepeatable, rfl⟩, hnodes, rfl⟩, hextra, ?_⟩
    rw [← hsource]

/-- A document is a quest when it is a mapping whose entries are read as one. -/
theorem ofDocument_eq_ok_iff {source : Option Path} : ofDocument v source = .ok q ↔
    ∃ es q₀, v = .mapping es ∧ readEntries es = .ok q₀ ∧ q = { q₀ with source } := by
  cases v with
  | mapping es =>
    rw [ofDocument]
    cases hread : readEntries es <;> simp [hread, eq_comm]
  | _ => simp [ofDocument]

end Quest
end QuestFlow

import Mathlib.Data.List.Basic
import QuestFlow.Proofs.Document.Record
import QuestFlow.Quest.Basic

/-!
# The records of a quest document

Inside a quest document there are mappings that are read as records (the quest, its nodes, their
options and messages, and localized texts) and others that are kept as they are.  To speak of all
records at once, this file says which they are: `RecordSort.contents` lists the fields of a record
with what stands in each, and `Value.HasRecord` follows it from the whole document inwards.

A record is named by its path.  Fields are given by their labels, whatever spelling the document
uses, so a record of a document and its counterpart in the written document have the same path.

The readers and writers do not use this description.  That they agree with it is shown where each
sort of record is written and read back.
-/

namespace QuestFlow

/-! ## Sorts of records -/

/-- The sorts of records in a quest document. -/
inductive RecordSort where
  | quest | node | option | message | localized
  deriving DecidableEq, Repr

/-- What stands in a field. -/
inductive FieldContent where
  /-- numbers, texts or lists of them -/
  | plain
  /-- a list of conditions or of actions -/
  | payloads
  /-- one record -/
  | record (sort : RecordSort)
  /-- a list of records -/
  | records (sort : RecordSort)
  deriving DecidableEq, Repr

/-- The fields that all flat variants share, with what stands in them. -/
def FlatEdges.contents : List (Spelled × FieldContent) :=
  [(nextField, .plain), (strayIfTrueField, .plain), (strayIfFalseField, .plain),
    (strayOptionsField, .records .option)]

/-- The fields of a speech, with what stands in them. -/
def Speech.contents : List (Spelled × FieldContent) :=
  [(partnerField, .plain), (speakerField, .plain), (textField, .record .localized)]

/-- The fields of a variant, with what stands in them. -/
def Variant.contents : Variant → List (Spelled × FieldContent)
  | .entryPoint => FlatEdges.contents ++ [(typeField, .plain)]
  | .actions => FlatEdges.contents ++ [(typeField, .plain), (actionsField, .payloads)]
  | .dialog =>
    FlatEdges.contents ++ (typeField, .plain) :: Speech.contents ++
      [(messagesField, .records .message)]
  | .questProgress => FlatEdges.contents ++ [(typeField, .plain), (progressorsField, .plain)]
  | .decision =>
    (typeField, .plain) :: Speech.contents ++
      [(optionsField, .records .option), (strayNextField, .plain)]
  | .conditionBranch =>
    [(typeField, .plain), (requiredField, .plain), (ifTrueField, .plain), (ifFalseField, .plain),
      (strayNextField, .plain)]
  | .unmodelled =>
    [(typeField, .plain), (nextField, .plain), (ifTrueField, .plain), (ifFalseField, .plain),
      (optionsField, .records .option)]

/-- The variant that the entries of a node select. -/
def variantOf? (es : Entries) : Option Variant := (Node.typeOf? (.mapping es)).map .ofType

namespace RecordSort

/-- The fields of a record of this sort, with what stands in them.  Those of a node depend on the
variant that its entries select. -/
def contents (sort : RecordSort) (es : Entries) : List (Spelled × FieldContent) :=
  match sort with
  | .quest =>
    [(Quest.questIdField, .plain), (Quest.displayNameField, .record .localized),
      (Quest.typeVersionField, .plain), (Quest.versionField, .plain),
      (Quest.questTypeField, .plain), (Quest.repeatableField, .plain),
      (Quest.nodesField, .records .node)]
  | .node =>
    (idField, .plain) :: (conditionsField, .payloads) ::
      match variantOf? es with
      | some variant => variant.contents
      | none => []
  | .option =>
    [(textField, .record .localized), (conditionsField, .payloads), (nextField, .plain)]
  | .message => [(speakerField, .plain), (textField, .record .localized)]
  | .localized => [(Localized.englishField, .plain), (Localized.germanField, .plain)]

/-- The fields of a record of this sort. -/
def fields (sort : RecordSort) (es : Entries) : List Spelled := (sort.contents es).map (·.1)

end RecordSort

/-- The fields of a variant are those that its reader takes. -/
theorem Variant.map_fst_contents (variant : Variant) :
    variant.contents.map (·.1) = variant.fields := by
  cases variant <;> rfl

theorem RecordSort.fields_node {es : Entries} {variant : Variant}
    (hvariant : variantOf? es = some variant) :
    RecordSort.node.fields es = Node.fieldsOf variant := by
  rw [fields, contents, hvariant, Node.fieldsOf, ← variant.map_fst_contents]
  rfl

/-- In no record can two fields be meant by one name. -/
theorem RecordSort.unambiguous (sort : RecordSort) (es : Entries) :
    Unambiguous (sort.fields es) := by
  cases sort with
  | node =>
    cases hvariant : variantOf? es with
    | none => rw [fields, contents, hvariant]; decide
    | some variant => rw [fields_node hvariant]; cases variant <;> decide
  | quest => exact (by decide : Unambiguous (fields .quest []))
  | option => exact (by decide : Unambiguous (fields .option []))
  | message => exact (by decide : Unambiguous (fields .message []))
  | localized => exact (by decide : Unambiguous (fields .localized []))

/-! ## Records in their places -/

/-- A record at its place in a document. -/
structure Record where
  /-- from the whole document down to the record -/
  path : List Step
  sort : RecordSort
  entries : Entries
  deriving DecidableEq, Repr

namespace Record

/-- The fields of the record. -/
def fields (r : Record) : List Spelled := r.sort.fields r.entries

end Record

/-- A mapping as a record of the sort. -/
def recordAt? (path : List Step) (sort : RecordSort) : Value → Option Record
  | .mapping es => some ⟨path, sort, es⟩
  | _ => none

/-- The records that a value is made of, where the content is expected. -/
def FieldContent.recordsIn (path : List Step) : FieldContent → Value → List Record
  | .record sort, v => (recordAt? path sort v).toList
  | .records sort, .list items =>
    items.zipIdx.filterMap fun (v, i) => recordAt? (path ++ [.index i]) sort v
  | _, _ => []

/-- The records in the fields of a record. -/
def Record.parts (r : Record) : List Record :=
  (r.sort.contents r.entries).flatMap fun (f, c) =>
    match f.find r.entries with
    | some (_, v) => c.recordsIn (r.path ++ [.field f.label]) v
    | none => []

/-- The records of a document: the document itself, and the parts of its records. -/
inductive Value.HasRecord (doc : Value) : Record → Prop where
  | whole {es : Entries} (mapping : doc = .mapping es) : HasRecord doc ⟨[], .quest, es⟩
  | part {r r' : Record} (holder : HasRecord doc r) (mem : r' ∈ r.parts) : HasRecord doc r'

theorem recordAt?_eq_some_iff {path : List Step} {sort : RecordSort} {v : Value} {r : Record} :
    recordAt? path sort v = some r ↔ ∃ es, v = .mapping es ∧ r = ⟨path, sort, es⟩ := by
  cases v <;> simp [recordAt?, eq_comm]

theorem FieldContent.mem_recordsIn_iff {path : List Step} {c : FieldContent} {v : Value}
    {r : Record} : r ∈ c.recordsIn path v ↔ ∃ es,
      (c = .record r.sort ∧ v = .mapping es ∧ r = ⟨path, r.sort, es⟩) ∨
      (c = .records r.sort ∧ ∃ items i, v = .list items ∧ items[i]? = some (.mapping es) ∧
        r = ⟨path ++ [.index i], r.sort, es⟩) := by
  cases c with
  | plain | payloads => simp [recordsIn]
  | record sort =>
    rw [recordsIn, Option.mem_toList, recordAt?_eq_some_iff]
    constructor
    · rintro ⟨es, rfl, rfl⟩
      exact ⟨es, .inl ⟨rfl, rfl, rfl⟩⟩
    · rintro ⟨es, ⟨hsort, rfl, hr⟩ | ⟨hsort, -⟩⟩
      · cases hsort
        exact ⟨es, rfl, hr⟩
      · cases hsort
  | records sort =>
    cases v with
    | list items =>
      simp only [recordsIn, List.mem_filterMap, recordAt?_eq_some_iff]
      constructor
      · rintro ⟨⟨w, i⟩, hmem, es, rfl, rfl⟩
        exact ⟨es, .inr ⟨rfl, items, i, rfl, List.mem_zipIdx_iff_getElem?.1 hmem, rfl⟩⟩
      · rintro ⟨es, ⟨hsort, -⟩ | ⟨hsort, items', i, hitems, hi, hr⟩⟩
        · cases hsort
        · cases hsort
          cases hitems
          exact ⟨(.mapping es, i), List.mem_zipIdx_iff_getElem?.2 hi, es, rfl, hr⟩
    | _ => simp [recordsIn]

theorem Record.mem_parts_iff {r r' : Record} : r' ∈ r.parts ↔
    ∃ f c n v, (f, c) ∈ r.sort.contents r.entries ∧ f.find r.entries = some (n, v) ∧
      r' ∈ c.recordsIn (r.path ++ [.field f.label]) v := by
  rw [parts, List.mem_flatMap]
  constructor
  · rintro ⟨⟨f, c⟩, hmem, hr⟩
    cases hfind : f.find r.entries with
    | none => simp [hfind] at hr
    | some nv =>
      obtain ⟨n, v⟩ := nv
      exact ⟨f, c, n, v, hmem, hfind, by simpa [hfind] using hr⟩
  · rintro ⟨f, c, n, v, hmem, hfind, hr⟩
    exact ⟨(f, c), hmem, by simpa [hfind] using hr⟩

/-! ## All records of a document

Records lie in each other at most four deep, so they can be listed.
-/

/-- How many records can lie in each other inside a record of this sort. -/
def RecordSort.height : RecordSort → Nat
  | .quest => 3
  | .node => 2
  | .option | .message => 1
  | .localized => 0

/-- The record, its parts, their parts and so on, down to the given depth. -/
def Record.within : Nat → Record → List Record
  | 0, r => [r]
  | depth + 1, r => r :: r.parts.flatMap (within depth)

/-- All records of a document. -/
def Value.records : Value → List Record
  | .mapping es => Record.within RecordSort.quest.height ⟨[], .quest, es⟩
  | _ => []

/-- How many records can lie in each other in a field. -/
def FieldContent.height : FieldContent → Nat
  | .plain | .payloads => 0
  | .record sort | .records sort => sort.height + 1

theorem RecordSort.height_contents_le (sort : RecordSort) (es : Entries) :
    ∀ e ∈ sort.contents es, e.2.height ≤ sort.height := by
  have hvariant : ∀ variant : Variant, ∀ e ∈ variant.contents, e.2.height ≤ height .node := by
    intro variant
    cases variant <;> decide
  cases sort with
  | node =>
    refine List.forall_mem_cons.2 ⟨by decide, List.forall_mem_cons.2 ⟨by decide, ?_⟩⟩
    cases variantOf? es with
    | none => simp
    | some variant => exact hvariant variant
  | quest => exact (by decide : ∀ e ∈ contents .quest [], e.2.height ≤ height .quest)
  | option => exact (by decide : ∀ e ∈ contents .option [], e.2.height ≤ height .option)
  | message => exact (by decide : ∀ e ∈ contents .message [], e.2.height ≤ height .message)
  | localized => exact (by decide : ∀ e ∈ contents .localized [], e.2.height ≤ height .localized)

/-- A part of a record is of a sort that is less high. -/
theorem Record.height_lt_of_mem_parts {r r' : Record} (h : r' ∈ r.parts) :
    r'.sort.height < r.sort.height := by
  obtain ⟨f, c, n, v, hf, -, hr⟩ := mem_parts_iff.1 h
  have hle := r.sort.height_contents_le r.entries _ hf
  obtain ⟨es, ⟨rfl, -⟩ | ⟨rfl, -⟩⟩ := FieldContent.mem_recordsIn_iff.1 hr <;> exact hle

theorem Record.self_mem_within (depth : Nat) (r : Record) : r ∈ r.within depth := by
  cases depth <;> exact List.mem_cons_self

/-- Going down as deep as a record is high, one meets the parts of all that one meets. -/
theorem Record.mem_within_of_mem_parts {depth : Nat} {top r r' : Record}
    (hheight : top.sort.height ≤ depth) (hr : r ∈ top.within depth) (hpart : r' ∈ r.parts) :
    r' ∈ top.within depth := by
  induction depth generalizing top with
  | zero =>
    obtain rfl := List.mem_singleton.1 hr
    have hlt := height_lt_of_mem_parts hpart
    omega
  | succ depth ih =>
    rw [within, List.mem_cons, List.mem_flatMap] at hr ⊢
    rcases hr with rfl | ⟨p, hp, hr⟩
    · exact .inr ⟨r', hpart, self_mem_within depth r'⟩
    · -- a part is less high than its holder, so one level less is deep enough for it
      have hlt := height_lt_of_mem_parts hp
      exact .inr ⟨p, hp, ih (by omega) hr⟩

theorem Value.HasRecord.of_mem_within {doc : Value} {depth : Nat} {top r : Record}
    (htop : doc.HasRecord top) (hr : r ∈ top.within depth) : doc.HasRecord r := by
  induction depth generalizing top with
  | zero =>
    obtain rfl := List.mem_singleton.1 hr
    exact htop
  | succ depth ih =>
    rw [Record.within, List.mem_cons, List.mem_flatMap] at hr
    rcases hr with rfl | ⟨p, hp, hr⟩
    · exact htop
    · exact ih (.part htop hp) hr

/-- The list is complete, and holds nothing else. -/
theorem Value.mem_records_iff {doc : Value} {r : Record} : r ∈ doc.records ↔ doc.HasRecord r := by
  constructor
  · intro hr
    cases doc with
    | mapping es => exact (HasRecord.whole rfl).of_mem_within hr
    | _ => cases hr
  · intro hr
    induction hr with
    | whole hmapping =>
      subst hmapping
      exact Record.self_mem_within _ _
    | part _ hpart ih =>
      cases doc with
      | mapping es => exact Record.mem_within_of_mem_parts (Nat.le_refl _) ih hpart
      | _ => cases ih

end QuestFlow

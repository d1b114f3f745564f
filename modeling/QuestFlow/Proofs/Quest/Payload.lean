import Mathlib.Data.List.Basic
import QuestFlow.Quest.Payload

/-!
# Telling entries

The meaning of a condition or an action that is written as a mapping is told by one of its entries:
the first whose key is telling and whose value has the shape that the key asks for.  Nothing else in
the mapping counts.  Conditions and actions are read in the same way, each by a table of its own.

1. **The tables** — `Requirement.shapes` and `Effect.shapes` list the telling keys with the shapes
   of their values, and `fitsIn` looks an entry up there.  The readers know the same entries
   (`exists_ofEntry?_iff`).
2. **Mentions** — `NamedIn` says where the value of a telling entry names an entity, and of which
   kind.  What is read from the entry mentions exactly those, unless they are empty
   (`mem_references_iff`).
3. **The first entry** — the crux: an entry that does not fit is passed over wherever it stands
   (`PayloadSort.ofValue_filter`), so a mapping means what its first fitting entry means by itself
   (`PayloadSort.Decides.exists_meaning`).

`payloadsTold` has all of this for every value.
-/

namespace QuestFlow

/-! ## The tables -/

/-- The shape of a value under a telling key. -/
inductive Shape where
  | mapping | list | text | any
  deriving DecidableEq, Repr

/-- Whether a value has the shape. -/
def Shape.admits : Shape → Value → Bool
  | .mapping, .mapping _ => true
  | .list, .list _ => true
  | .text, .text _ => true
  | .any, _ => true
  | _, _ => false

/-- Whether an entry has a telling key of the table and a value of the shape that the key asks for.
-/
def fitsIn (table : List (String × Shape)) : Key × Value → Bool
  | (.text word, v) => (table.lookup word).any (·.admits v)
  | _ => false

/-- An entry that fits is one of the table. -/
theorem exists_mem_of_fitsIn {table : List (String × Shape)} {k : Key} {v : Value}
    (hfits : fitsIn table (k, v) = true) :
    ∃ word shape, k = .text word ∧ (word, shape) ∈ table ∧ shape.admits v = true := by
  cases k with
  | text word =>
    obtain ⟨shape, hshape, hadmits⟩ := (Option.any_eq_true _ _).1 hfits
    obtain ⟨before, after, htable, -⟩ := List.lookup_eq_some_iff.1 hshape
    refine ⟨word, shape, rfl, ?_, hadmits⟩
    rw [htable]
    exact List.mem_append_right _ List.mem_cons_self
  | _ => cases hfits

/-! ## Mentions -/

/-- The fields of a telling mapping that name an entity, each with the kind that it has to be of. -/
def namingFields : String → List (String × EntityKind)
  | "ResourceAvailability" => [("Resource", .resource)]
  | "ItemUsedOnObject" => [("Item", .item), ("Object", .object)]
  | "ItemUsedOnNPC" => [("Item", .item), ("NPC", .character)]
  | "FactionStanding" => [("Faction", .faction)]
  | _ => []

/-- The telling keys of lists of stacks. -/
def stackWords : List String := ["Inventory", "ItemsGained", "ItemsLost"]

/-- Under a telling key the value names an entity of the kind: in one of its fields, as the type of
one of its stacks, or as a whole. -/
def NamedIn (word : String) (v : Value) (kind : EntityKind) (id : String) : Prop :=
  match v with
  | .mapping entries =>
    ∃ name, (name, kind) ∈ namingFields word ∧ Value.lookup name entries = some (.text id)
  | .list items => word ∈ stackWords ∧ kind = .item ∧
    ∃ entries, .mapping entries ∈ items ∧ Value.lookup "Type" entries = some (.text id)
  | .text s => word = "ItemLost" ∧ kind = .item ∧ s = id
  | _ => False

/-- Under the other telling keys nothing is named. -/
theorem not_namedIn {word : String} (hfields : namingFields word = [])
    (hstacks : word ∉ stackWords) (hlost : word ≠ "ItemLost") (v : Value) (kind : EntityKind)
    (id : String) : ¬NamedIn word v kind id := by
  cases v with
  | mapping entries =>
    rintro ⟨name, hname, -⟩
    rw [hfields] at hname
    cases hname
  | list items =>
    rintro ⟨hword, -⟩
    exact hstacks hword
  | text s =>
    rintro ⟨hword, -⟩
    exact hlost hword
  | _ => rintro ⟨⟩

/-- No mentions are what a value under a key that names nothing has. -/
theorem mem_nil_iff_of_unnamed {word : String} (hfields : namingFields word = [])
    (hstacks : word ∉ stackWords) (hlost : word ≠ "ItemLost") {v : Value} {r : Reference} :
    r ∈ ([] : List Reference) ↔
      r.context = word ∧ r.id ≠ "" ∧ NamedIn word v r.kind r.id := by
  constructor
  · intro hmem
    cases hmem
  · rintro ⟨-, -, hnamed⟩
    exact absurd hnamed (not_namedIn hfields hstacks hlost v r.kind r.id)

theorem filledText?_eq_some_iff {v : Value} {id : String} :
    v.filledText? = some id ↔ v = .text id ∧ id ≠ "" := by
  cases v with
  | text s =>
    rw [Value.filledText?]
    split
    · rename_i hempty
      obtain rfl := String.isEmpty_iff.1 hempty
      simp +contextual [eq_comm]
    · rename_i hfilled
      rw [String.isEmpty_iff] at hfilled
      simp only [Option.some.injEq, Value.text.injEq, iff_self_and]
      rintro rfl
      exact hfilled
  | _ => simp [Value.filledText?]

theorem filledField?_eq_some_iff {name id : String} {entries : Entries} :
    filledField? name entries = some id ↔
      Value.lookup name entries = some (.text id) ∧ id ≠ "" := by
  simp [filledField?, Option.bind_eq_some_iff, filledText?_eq_some_iff]

theorem mem_stackTypes_iff {items : List Value} {id : String} :
    id ∈ stackTypes items ↔ id ≠ "" ∧
      ∃ entries, .mapping entries ∈ items ∧ Value.lookup "Type" entries = some (.text id) := by
  rw [stackTypes, List.mem_filterMap]
  constructor
  · rintro ⟨v, hv, hid⟩
    cases v with
    | mapping entries =>
      obtain ⟨hlookup, hfilled⟩ := filledField?_eq_some_iff.1 hid
      exact ⟨hfilled, entries, hv, hlookup⟩
    | _ => cases hid
  · rintro ⟨hfilled, entries, hv, hlookup⟩
    exact ⟨.mapping entries, hv, filledField?_eq_some_iff.2 ⟨hlookup, hfilled⟩⟩

namespace Requirement

theorem mem_mention_iff {kind : EntityKind} {id : Option String} {context : String}
    {r : Reference} : r ∈ references.mention kind id context ↔
      r.context = context ∧ r.id ≠ "" ∧ r.kind = kind ∧ id = some r.id := by
  obtain ⟨kind', id', context'⟩ := r
  cases id with
  | none => simp [references.mention]
  | some id =>
    by_cases hempty : id = ""
    · subst hempty
      have hnone : references.mention kind (some "") context = [] := rfl
      rw [hnone]
      constructor
      · intro hmem
        cases hmem
      · rintro ⟨-, hfilled, -, hid⟩
        exact absurd (Option.some.inj hid).symm hfilled
    · simp only [references.mention, String.isEmpty_iff, hempty, if_false, List.mem_singleton,
        Reference.mk.injEq, Option.some.injEq]
      constructor
      · rintro ⟨rfl, rfl, rfl⟩
        exact ⟨rfl, hempty, rfl, rfl⟩
      · rintro ⟨rfl, -, rfl, rfl⟩
        exact ⟨rfl, rfl, rfl⟩

theorem mem_mentions_iff {kind : EntityKind} {ids : List String} {context : String}
    {r : Reference} : r ∈ references.mentions kind ids context ↔
      r.context = context ∧ r.kind = kind ∧ r.id ∈ ids := by
  obtain ⟨kind', id', context'⟩ := r
  simp only [references.mentions, List.mem_map, Reference.mk.injEq]
  constructor
  · rintro ⟨id, hid, rfl, rfl, rfl⟩
    exact ⟨rfl, rfl, hid⟩
  · rintro ⟨rfl, rfl, hid⟩
    exact ⟨_, hid, rfl, rfl, rfl⟩

/-- The naming fields of a telling mapping have the mentions in it. -/
theorem mem_fieldMentions_iff {word : String} {entries : Entries} {r : Reference} :
    r ∈ (namingFields word).flatMap
        (fun (name, kind) => references.mention kind (filledField? name entries) word) ↔
      r.context = word ∧ r.id ≠ "" ∧ NamedIn word (.mapping entries) r.kind r.id := by
  rw [List.mem_flatMap]
  constructor
  · rintro ⟨⟨name, kind⟩, hname, hr⟩
    obtain ⟨hword, hfilled, rfl, hid⟩ := mem_mention_iff.1 hr
    obtain ⟨hlookup, -⟩ := filledField?_eq_some_iff.1 hid
    exact ⟨hword, hfilled, name, hname, hlookup⟩
  · rintro ⟨hword, hfilled, name, hname, hlookup⟩
    have hid : filledField? name entries = some r.id :=
      filledField?_eq_some_iff.2 ⟨hlookup, hfilled⟩
    exact ⟨(name, r.kind), hname, mem_mention_iff.2 ⟨hword, hfilled, rfl, hid⟩⟩

/-- The types of its stacks are the mentions in a telling list. -/
theorem mem_stackMentions_iff {word : String} (hstacks : word ∈ stackWords) {items : List Value}
    {r : Reference} : r ∈ references.mentions .item (stackTypes items) word ↔
      r.context = word ∧ r.id ≠ "" ∧ NamedIn word (.list items) r.kind r.id := by
  rw [mem_mentions_iff, mem_stackTypes_iff]
  constructor
  · rintro ⟨hword, hkind, hfilled, htype⟩
    exact ⟨hword, hfilled, hstacks, hkind, htype⟩
  · rintro ⟨hword, hfilled, -, hkind, htype⟩
    exact ⟨hword, hkind, hfilled, htype⟩

/-- The telling keys of conditions. -/
def shapes : List (String × Shape) :=
  [("ResourceAvailability", .mapping), ("ItemUsedOnObject", .mapping), ("ItemUsedOnNPC", .mapping),
    ("FactionStanding", .mapping), ("Inventory", .list), ("ItemLost", .text),
    ("QuestCompleted", .text)]

/-- The telling key of what a condition asks for. -/
def word? : Requirement → Option String
  | .resourceAvailability _ => some "ResourceAvailability"
  | .itemUsedOnObject _ _ => some "ItemUsedOnObject"
  | .itemUsedOnNpc _ _ => some "ItemUsedOnNPC"
  | .factionStanding _ => some "FactionStanding"
  | .inventory _ => some "Inventory"
  | .itemLost _ => some "ItemLost"
  | .questCompleted _ => some "QuestCompleted"
  | .unrecognized => none

theorem exists_ofEntry?_iff (k : Key) (v : Value) :
    (∃ a, ofEntry? k v = some a) ↔ fitsIn shapes (k, v) = true := by
  constructor
  · rintro ⟨a, htells⟩
    unfold ofEntry? at htells
    split at htells
    case h_8 => cases htells
    all_goals rfl
  · intro hfits
    obtain ⟨word, shape, rfl, hmem, hadmits⟩ := exists_mem_of_fitsIn hfits
    simp only [shapes, List.mem_cons, List.not_mem_nil, or_false, Prod.mk.injEq] at hmem
    rcases hmem with ⟨rfl, rfl⟩ | ⟨rfl, rfl⟩ | ⟨rfl, rfl⟩ | ⟨rfl, rfl⟩ | ⟨rfl, rfl⟩ | ⟨rfl, rfl⟩ |
      ⟨rfl, rfl⟩ <;> cases v <;> simp [Shape.admits] at hadmits <;>
      exact ⟨_, rfl⟩

theorem word?_of_ofEntry? {word : String} {v : Value} {a : Requirement}
    (htells : ofEntry? (.text word) v = some a) : a.word? = some word := by
  unfold ofEntry? at htells
  split at htells <;> simp_all only [Key.text.injEq, Option.some.injEq, reduceCtorEq]
  all_goals
    subst htells
    rfl

theorem mem_references_iff {word : String} {v : Value} {a : Requirement}
    (htells : ofEntry? (.text word) v = some a) {r : Reference} :
    r ∈ a.references ↔ r.context = word ∧ r.id ≠ "" ∧ NamedIn word v r.kind r.id := by
  unfold ofEntry? at htells
  split at htells
  case h_8 => cases htells
  all_goals
    rename_i hword
    obtain rfl := Key.text.inj hword
    obtain rfl := Option.some.inj htells
  case h_5 items _ => exact mem_stackMentions_iff (by decide)
  case h_6 s _ =>
    rw [references, mem_mention_iff, filledText?_eq_some_iff]
    constructor
    · rintro ⟨hword, hfilled, hkind, hid, -⟩
      exact ⟨hword, hfilled, rfl, hkind, Value.text.inj hid⟩
    · rintro ⟨hword, hfilled, -, hkind, rfl⟩
      exact ⟨hword, hfilled, hkind, rfl, hfilled⟩
  case h_7 => exact mem_nil_iff_of_unnamed rfl (by decide) (by decide)
  all_goals
    rw [← mem_fieldMentions_iff]
    simp [references, namingFields]

end Requirement

namespace Effect

/-- The telling keys of actions. -/
def shapes : List (String × Shape) :=
  [("ItemsGained", .list), ("ItemsLost", .list), ("FactionStanding", .mapping),
    ("JournalEntry", .any), ("QuestStageDescription", .mapping), ("CompleteQuest", .any),
    ("FailQuest", .any), ("DeclineQuest", .any)]

/-- The telling key of what an action does. -/
def word? : Effect → Option String
  | .ending how => some how.word
  | .journalEntry => some "JournalEntry"
  | .stageDescription _ => some "QuestStageDescription"
  | .itemsGained _ => some "ItemsGained"
  | .itemsLost _ => some "ItemsLost"
  | .factionStanding _ => some "FactionStanding"
  | .unrecognized => none

theorem word_of_ofWord? {s : String} {how : Ending} (hhow : Ending.ofWord? s = some how) :
    how.word = s := by
  simpa using List.find?_some hhow

/-- A bare text mentions nothing. -/
theorem references_ofWord (s : String) : (ofWord s).references = [] := by
  unfold ofWord
  split
  · rfl
  · split <;> rfl

theorem exists_ofEntry?_iff (k : Key) (v : Value) :
    (∃ a, ofEntry? k v = some a) ↔ fitsIn shapes (k, v) = true := by
  constructor
  · rintro ⟨a, htells⟩
    unfold ofEntry? at htells
    split at htells
    case h_6 =>
      obtain ⟨how, hhow, -⟩ := Option.map_eq_some_iff.1 htells
      obtain rfl := word_of_ofWord? hhow
      cases how <;> rfl
    case h_7 => cases htells
    all_goals rfl
  · intro hfits
    obtain ⟨word, shape, rfl, hmem, hadmits⟩ := exists_mem_of_fitsIn hfits
    simp only [shapes, List.mem_cons, List.not_mem_nil, or_false, Prod.mk.injEq] at hmem
    rcases hmem with ⟨rfl, rfl⟩ | ⟨rfl, rfl⟩ | ⟨rfl, rfl⟩ | ⟨rfl, rfl⟩ | ⟨rfl, rfl⟩ | ⟨rfl, rfl⟩ |
      ⟨rfl, rfl⟩ | ⟨rfl, rfl⟩ <;> cases v <;> simp [Shape.admits] at hadmits <;>
      exact ⟨_, rfl⟩

theorem word?_of_ofEntry? {word : String} {v : Value} {a : Effect}
    (htells : ofEntry? (.text word) v = some a) : a.word? = some word := by
  unfold ofEntry? at htells
  split at htells
  case h_6 =>
    rename_i hword _ _ _ _
    obtain rfl := Key.text.inj hword
    obtain ⟨how, hhow, rfl⟩ := Option.map_eq_some_iff.1 htells
    rw [word?, word_of_ofWord? hhow]
  case h_7 => cases htells
  all_goals
    rename_i hword
    obtain rfl := Key.text.inj hword
    obtain rfl := Option.some.inj htells
    rfl

theorem mem_references_iff {word : String} {v : Value} {a : Effect}
    (htells : ofEntry? (.text word) v = some a) {r : Reference} :
    r ∈ a.references ↔ r.context = word ∧ r.id ≠ "" ∧ NamedIn word v r.kind r.id := by
  unfold ofEntry? at htells
  split at htells
  case h_6 =>
    rename_i hword _ _ _ _
    obtain rfl := Key.text.inj hword
    obtain ⟨how, hhow, rfl⟩ := Option.map_eq_some_iff.1 htells
    obtain rfl := word_of_ofWord? hhow
    cases how <;> exact mem_nil_iff_of_unnamed rfl (by decide) (by decide)
  case h_7 => cases htells
  all_goals
    rename_i hword
    obtain rfl := Key.text.inj hword
    obtain rfl := Option.some.inj htells
  case h_1 items _ => exact Requirement.mem_stackMentions_iff (by decide)
  case h_2 items _ => exact Requirement.mem_stackMentions_iff (by decide)
  case h_3 entries _ =>
    rw [← Requirement.mem_fieldMentions_iff]
    simp [references, namingFields]
  case h_4 => exact mem_nil_iff_of_unnamed rfl (by decide) (by decide)
  case h_5 => exact mem_nil_iff_of_unnamed rfl (by decide) (by decide)

end Effect

/-! ## The first entry -/

/-- A sort of payload: how its values are read, and what is known of the reading of one entry. -/
structure PayloadSort (α : Type) where
  /-- the telling keys with the shapes of their values -/
  shapes : List (String × Shape)
  tells? : Key → Value → Option α
  ofValue : Value → α
  unrecognized : α
  word? : α → Option String
  references : α → List Reference
  tells_iff (k : Key) (v : Value) : (∃ a, tells? k v = some a) ↔ fitsIn shapes (k, v) = true
  ofValue_mapping (entries : Entries) : ofValue (.mapping entries) =
    (entries.findSome? fun (k, v) => tells? k v).getD unrecognized
  word?_of_tells {word : String} {v : Value} {a : α} :
    tells? (.text word) v = some a → word? a = some word
  mem_references_iff {word : String} {v : Value} {a : α} :
    tells? (.text word) v = some a → ∀ {r : Reference},
      r ∈ references a ↔ r.context = word ∧ r.id ≠ "" ∧ NamedIn word v r.kind r.id
  references_unrecognized : references unrecognized = []
  references_bare {v : Value} : (∀ entries, v ≠ .mapping entries) → references (ofValue v) = []

/-- Conditions. -/
def conditionSort : PayloadSort Requirement where
  shapes := Requirement.shapes
  tells? := Requirement.ofEntry?
  ofValue := Requirement.ofValue
  unrecognized := .unrecognized
  word? := Requirement.word?
  references := Requirement.references
  tells_iff := Requirement.exists_ofEntry?_iff
  ofValue_mapping _ := rfl
  word?_of_tells := Requirement.word?_of_ofEntry?
  mem_references_iff := Requirement.mem_references_iff
  references_unrecognized := rfl
  references_bare := by
    intro v hbare
    cases v with
    | mapping entries => exact absurd rfl (hbare entries)
    | _ => rfl

/-- Actions. -/
def actionSort : PayloadSort Effect where
  shapes := Effect.shapes
  tells? := Effect.ofEntry?
  ofValue := Effect.ofValue
  unrecognized := .unrecognized
  word? := Effect.word?
  references := Effect.references
  tells_iff := Effect.exists_ofEntry?_iff
  ofValue_mapping _ := rfl
  word?_of_tells := Effect.word?_of_ofEntry?
  mem_references_iff := Effect.mem_references_iff
  references_unrecognized := rfl
  references_bare := by
    intro v hbare
    cases v with
    | mapping entries => exact absurd rfl (hbare entries)
    | text s => exact Effect.references_ofWord s
    | _ => rfl

namespace PayloadSort

variable {α : Type} (s : PayloadSort α)

/-- Whether an entry has a telling key and a value of the shape that the key asks for. -/
def fits (e : Key × Value) : Bool := fitsIn s.shapes e

/-- Whether the value is a mapping in which the entry with this key and value is the first that
fits. -/
def Decides (v : Value) (word : String) (w : Value) : Prop :=
  ∃ before after, v = .mapping (before ++ (.text word, w) :: after) ∧
    (∀ e ∈ before, s.fits e = false) ∧ s.fits (.text word, w) = true

variable {s}

theorem tells?_eq_none {e : Key × Value} (hunfit : s.fits e = false) :
    s.tells? e.1 e.2 = none := by
  rw [Option.eq_none_iff_forall_ne_some]
  intro a htells
  have hfits : s.fits e = true := (s.tells_iff e.1 e.2).1 ⟨a, htells⟩
  rw [hunfit] at hfits
  cases hfits

/-- What the first fitting entry tells is the meaning. -/
theorem Decides.exists_meaning {v w : Value} {word : String} (hdecides : s.Decides v word w) :
    ∃ a, s.tells? (.text word) w = some a ∧ s.ofValue v = a := by
  obtain ⟨before, after, rfl, hunfit, hfits⟩ := hdecides
  obtain ⟨a, ha⟩ := (s.tells_iff (.text word) w).2 hfits
  have hbefore : (before.findSome? fun (k, v) => s.tells? k v) = none :=
    List.findSome?_eq_none_iff.2 fun e he => tells?_eq_none (hunfit e he)
  refine ⟨a, ha, ?_⟩
  simp only [s.ofValue_mapping, List.findSome?_append, hbefore, Option.none_or,
    List.findSome?_cons, ha, Option.getD_some]

/-- What does not fit may be left out. -/
theorem ofValue_filter (entries : Entries) :
    s.ofValue (.mapping (entries.filter s.fits)) = s.ofValue (.mapping entries) := by
  rw [s.ofValue_mapping, s.ofValue_mapping]
  congr 1
  induction entries with
  | nil => rfl
  | cons e rest ih =>
    cases hfits : s.fits e with
    | true =>
      rw [List.filter_cons_of_pos hfits, List.findSome?_cons, List.findSome?_cons, ih]
    | false =>
      obtain ⟨k, v⟩ := e
      have hnone : s.tells? k v = none := tells?_eq_none hfits
      rw [List.filter_cons_of_neg (by simp [hfits]), ih, List.findSome?_cons]
      simp only [hnone]

/-- Where an entry fits, one is the first. -/
theorem exists_decides {entries : Entries} {e : Key × Value} (he : e ∈ entries)
    (hfits : s.fits e = true) : ∃ word w, s.Decides (.mapping entries) word w := by
  obtain ⟨first, hfirst⟩ := Option.isSome_iff_exists.1 (List.find?_isSome.2 ⟨e, he, hfits⟩)
  obtain ⟨hfirstFits, before, after, hentries, hbefore⟩ := List.find?_eq_some_iff_append.1 hfirst
  obtain ⟨k, w⟩ := first
  obtain ⟨word, shape, rfl, -, -⟩ := exists_mem_of_fitsIn hfirstFits
  refine ⟨word, w, before, after, by rw [hentries], ?_, hfirstFits⟩
  intro e' he'
  simpa using hbefore e' he'

/-- A mapping in which nothing fits has no meaning. -/
theorem ofValue_of_unfit {entries : Entries} (hunfit : ∀ e ∈ entries, s.fits e = false) :
    s.ofValue (.mapping entries) = s.unrecognized := by
  have hnone : entries.filter s.fits = [] :=
    List.filter_eq_nil_iff.2 fun e he => by simp [hunfit e he]
  rw [← ofValue_filter, hnone, s.ofValue_mapping]
  rfl

/-- The mentions of a value are those in its first fitting entry. -/
theorem mem_references_ofValue_iff {v : Value} {r : Reference} :
    r ∈ s.references (s.ofValue v) ↔
      ∃ w, s.Decides v r.context w ∧ r.id ≠ "" ∧ NamedIn r.context w r.kind r.id := by
  constructor
  · intro hr
    by_cases hmapping : ∃ entries, v = .mapping entries
    · obtain ⟨entries, rfl⟩ := hmapping
      by_cases hfit : ∃ e ∈ entries, s.fits e = true
      · obtain ⟨e, he, hfits⟩ := hfit
        obtain ⟨word, w, hdecides⟩ := exists_decides he hfits
        obtain ⟨a, ha, hmeaning⟩ := hdecides.exists_meaning
        rw [hmeaning] at hr
        obtain ⟨rfl, hfilled, hnamed⟩ := (s.mem_references_iff ha).1 hr
        exact ⟨w, hdecides, hfilled, hnamed⟩
      · have hnothing : s.ofValue (.mapping entries) = s.unrecognized :=
          ofValue_of_unfit fun e he => by
            rw [← Bool.not_eq_true]
            exact fun hfits => hfit ⟨e, he, hfits⟩
        rw [hnothing, s.references_unrecognized] at hr
        cases hr
    · rw [s.references_bare fun entries hv => hmapping ⟨entries, hv⟩] at hr
      cases hr
  · rintro ⟨w, hdecides, hfilled, hnamed⟩
    obtain ⟨a, ha, hmeaning⟩ := hdecides.exists_meaning
    rw [hmeaning]
    exact (s.mem_references_iff ha).2 ⟨rfl, hfilled, hnamed⟩

variable (s) in
/-- The first entry that fits, and nothing else in a value, tells what it means and mentions. -/
structure Told : Prop where
  decided : ∀ v word w, s.Decides v word w →
    s.ofValue v = s.ofValue (.mapping [(.text word, w)]) ∧ s.word? (s.ofValue v) = some word
  undecided : ∀ entries, (∀ e ∈ entries, s.fits e = false) →
    s.ofValue (.mapping entries) = s.unrecognized
  /-- entries that do not fit may come, go and move -/
  unmoved : ∀ entries entries' : Entries, entries.filter s.fits = entries'.filter s.fits →
    s.ofValue (.mapping entries) = s.ofValue (.mapping entries')
  references_iff : ∀ v r, r ∈ s.references (s.ofValue v) ↔
    ∃ w, s.Decides v r.context w ∧ r.id ≠ "" ∧ NamedIn r.context w r.kind r.id
  references_unrecognized : s.references s.unrecognized = []

variable (s) in
theorem told : s.Told where
  decided := by
    intro v word w hdecides
    obtain ⟨a, ha, hmeaning⟩ := hdecides.exists_meaning
    obtain ⟨-, -, -, -, hfits⟩ := hdecides
    have halone : s.Decides (.mapping [(.text word, w)]) word w :=
      ⟨[], [], rfl, fun _ he => absurd he List.not_mem_nil, hfits⟩
    obtain ⟨b, hb, hmeaning'⟩ := halone.exists_meaning
    obtain rfl := Option.some.inj (ha.symm.trans hb)
    exact ⟨hmeaning.trans hmeaning'.symm, by rw [hmeaning, s.word?_of_tells ha]⟩
  undecided _ hunfit := ofValue_of_unfit hunfit
  unmoved := by
    intro entries entries' hsame
    rw [← ofValue_filter entries, hsame, ofValue_filter]
  references_iff _ _ := mem_references_ofValue_iff
  references_unrecognized := s.references_unrecognized

end PayloadSort

/-- Conditions and actions are told by the first entry that fits, keep the value that they are
written as, and are taken as they are when they come back. -/
structure PayloadsTold : Prop where
  conditions : conditionSort.Told
  actions : actionSort.Told
  readCondition : ∀ v,
    Payload.readCondition (.value v) = .condition ⟨v, conditionSort.ofValue v⟩
  readAction : ∀ v, Payload.readAction (.value v) = .action ⟨v, actionSort.ofValue v⟩
  raw : ∀ v, (Payload.readCondition (.value v)).raw = v ∧ (Payload.readAction (.value v)).raw = v
  again : ∀ p, Payload.readCondition (.payload p) = p ∧ Payload.readAction (.payload p) = p

theorem payloadsTold : PayloadsTold where
  conditions := conditionSort.told
  actions := actionSort.told
  readCondition _ := rfl
  readAction _ := rfl
  raw _ := ⟨rfl, rfl⟩
  again _ := ⟨rfl, rfl⟩

-- a telling key whose value does not fit is passed over
example : Effect.ofValue (.mapping [(.text "ItemsGained", .null), (.text "FailQuest", .null)]) =
    .ending .fail := by
  decide

end QuestFlow

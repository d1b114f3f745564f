import QuestFlow.Proofs.Quest.Rereading
import QuestFlow.Proofs.Repository.Alike
import QuestFlow.Proofs.Rule.Renaming

/-!
# From a document to a quest and back

A quest is read from a document, written, and read again.  If no record of the document gives a
field twice (`Record.GivesOnce`), then nothing that matters is lost on the way
(`Quest.exists_comesBack`).

* In the written document each record stands where it stood, with its conditions, its actions and
  what else it holds.  For this it does not matter whether a field is given twice.
* The second quest is the first without left-over nulls (`Quest.tidy`), so it has the same nodes
  (`Node.agrees_tidy`).
* The rules about one quest see no difference, because they do not even mind other IDs: the IDs are
  replaced by themselves (`Quest.issues_tidy`).
* The rules about all quests see of a quest what `Quest.Alike` says.  It includes the name in any
  locale, also in one whose text is a left-over entry.  This is why left-over nulls must not hide
  another entry under the same key (`Localized.get_tidy`).
-/

namespace QuestFlow

open Function

/-! ## Giving nothing twice -/

/-- No key of the record occurs twice, as it is in every mapping, and no field of it is given under
both of its names. -/
structure Record.GivesOnce (r : Record) : Prop where
  keys : (r.entries.map (·.1)).Nodup
  fields : ∀ f ∈ r.fields, Value.lookup f.label r.entries = none ∨
    Value.lookup f.plain r.entries = none

namespace Record

variable {r : Record}

theorem givesOnce_iff : r.GivesOnce ↔ (r.entries.map (·.1)).Nodup ∧
    ∀ f ∈ r.fields, Value.lookup f.label r.entries = none ∨ Value.lookup f.plain r.entries = none :=
  ⟨fun h => ⟨h.keys, h.fields⟩, fun h => ⟨h.1, h.2⟩⟩

instance (r : Record) : Decidable r.GivesOnce := decidable_of_iff' _ givesOnce_iff

/-- What is not given twice masks no null. -/
theorem GivesOnce.not_masksNull (h : r.GivesOnce) : ¬ r.MasksNull := by
  rintro ⟨f, hf, hlabel, ⟨_, v⟩, hmem, rfl, -⟩
  rcases h.fields f hf with hnone | hnone
  · rw [hnone] at hlabel
    cases hlabel
  · exact notMem_of_lookup_eq_none hnone hmem

end Record

/-! ## The texts of a localized text -/

/-- The text in a locale does not depend on left-over nulls. -/
theorem Localized.get_tidy {t : Localized} (hdistinct : (t.extra.map (·.1)).Nodup)
    (locale : String) : t.tidy.get locale = t.get locale := by
  rw [get, get, tidy]
  cases hfound : t.extra.lookup locale with
  | none => simp only [lookup_present_of_none hfound]
  | some v =>
    by_cases hv : v = .null
    · subst hv
      simp only [lookup_present_of_null hdistinct hfound]
    · simp only [lookup_present hfound hv]

namespace Quest

variable {doc : Value} {source : Option Path} {q : Quest}

/-- The left-over entries of the display name have different names. -/
theorem nodup_displayName (hread : ofDocument doc source = .ok q)
    (honce : ∀ r, doc.HasRecord r → r.GivesOnce) : (q.displayName.extra.map (·.1)).Nodup := by
  obtain ⟨es, q₀, rfl, hentries, rfl⟩ := ofDocument_eq_ok_iff.1 hread
  obtain ⟨-, hname, -⟩ := readEntries_eq_ok_iff.1 hentries
  -- a name that is given is a record of the document, and one that is not has no entries
  rcases Spelled.optional_eq_ok_iff.1 hname with ⟨name, v, hfind, hv⟩ | ⟨-, hnone⟩
  · obtain ⟨es', rfl, -, -, hextra⟩ := Localized.read_eq_ok_iff.1 hv
    have hpart : Record.mk [.field displayNameField.label] .localized es' ∈
        Record.parts ⟨[], .quest, es⟩ := by
      refine Record.mem_parts_iff.2 ⟨displayNameField, .record .localized, name, _,
        List.mem_of_getElem? (i := 1) rfl, hfind, ?_⟩
      exact FieldContent.mem_recordsIn_iff.2 ⟨es', .inl ⟨rfl, rfl, rfl⟩⟩
    exact nodup_leftOver hextra (honce _ (.part (.whole rfl) hpart)).keys
  · have hempty : q₀.displayName = {} := hnone
    simp [hempty]

end Quest

/-! ## The same nodes -/

/-- The nodes are the same in all that is in the graph, that is offered, asked for or done.  Options
may have lost left-over nulls. -/
structure Node.Agrees (n' n : Node) : Prop where
  id : n'.id = n.id
  variant : n'.variant = n.variant
  nodeType : n'.nodeType = n.nodeType
  legalFields : n'.legalFields = n.legalFields
  strayFields : n'.strayFields = n.strayFields
  options : n'.options = n.options.map DialogOption.tidy
  strayOptions : n'.strayOptions = n.strayOptions.map DialogOption.tidy
  conditions : n'.conditions = n.conditions
  actions : n'.actions = n.actions

theorem Node.agrees_tidy (n : Node) : n.tidy.Agrees n where
  id := rfl
  variant := renames_tidy.variant n
  nodeType := renames_tidy.nodeType n
  legalFields := n.body.legalFields_tidy
  strayFields := n.body.strayFields_tidy
  options := n.body.options_tidy.1
  strayOptions := n.body.options_tidy.2
  conditions := rfl
  actions := renames_tidy.actions n

/-! ## The same issues -/

theorem Finding.rename_id (x : Finding) : x.rename id = x := by
  obtain ⟨p, n⟩ := x
  rw [rename, Option.map_id]
  cases p <;> rfl

namespace Quest

/-- The rules about one quest do not see left-over nulls. -/
theorem issues_tidy (q : Quest) (context : RuleContext) :
    q.tidy.issues context = q.issues context := by
  have hnodes : q.tidy.nodes = q.nodes.map Node.tidy := rfl
  have hfindings := findings_of_renames injective_id renames_tidy hnodes context
  rw [issues, issues, hfindings, List.map_map]
  exact List.map_congr_left fun x _ => congrArg Finding.issue x.rename_id

/-- Nor do the rules about all quests, where the display name has no key twice. -/
theorem alike_tidy {q : Quest} (hdistinct : (q.displayName.extra.map (·.1)).Nodup) :
    q.tidy.Alike q where
  id := rfl
  source := rfl
  names := Localized.get_tidy hdistinct
  actions := by
    rw [tidy, List.flatMap_map]
    exact List.flatMap_congr fun n _ => renames_tidy.actions n
  conditions := by
    rw [tidy, List.map_map]
    exact List.map_congr_left fun n _ => by rw [comp_apply, n.allConditions_tidy]; rfl

/-! ## All of it -/

/-- The quest `q` was read from `doc`, and `q'` from what was written for `q`. -/
structure ComesBack (doc : Value) (q q' : Quest) : Prop where
  /-- nothing is lost of the document -/
  records : ∀ r, doc.HasRecord r → ∃ r', q.toDocument.HasRecord r' ∧ r'.Restates r
  /-- of the quest nothing but left-over nulls -/
  tidy : q' = q.tidy
  nodes : List.Forall₂ Node.Agrees q'.nodes q.nodes
  issues : ∀ context, q'.issues context = q.issues context
  /-- among any other quests -/
  sharedIssues : ∀ before after locales, sharedIssues (before ++ q' :: after) locales =
    QuestFlow.sharedIssues (before ++ q :: after) locales

variable {doc : Value} {source : Option Path} {q : Quest}

/-- **Nothing is lost**: where no field is given twice, the written document is read again, and the
quest that comes back is as good as the first. -/
theorem exists_comesBack (hread : ofDocument doc source = .ok q)
    (honce : ∀ r, doc.HasRecord r → r.GivesOnce) :
    ∃ q', ofDocument q.toDocument source = .ok q' ∧ ComesBack doc q q' := by
  have hagain := ofDocument_toDocument hread fun r hr => (honce r hr).not_masksNull
  refine ⟨q.tidy, hagain, ?_, rfl, ?_, q.issues_tidy, ?_⟩
  · intro r hr
    obtain ⟨r', hr', hwritten⟩ := hr.exists_written (rewrite?_of_ofDocument hread)
    exact ⟨r', hr', hwritten.restates⟩
  · rw [Quest.tidy, List.forall₂_map_left_iff, List.forall₂_same]
    exact fun n _ => n.agrees_tidy
  · intro before after locales
    have halike : q.tidy.Alike q := alike_tidy (nodup_displayName hread honce)
    refine sharedIssues_congr (List.rel_append ?_ (.cons halike ?_)) locales
    · exact List.forall₂_same.2 fun other _ => .refl other
    · exact List.forall₂_same.2 fun other _ => .refl other

end Quest

/-- A quest in either spelling, with nulls inside conditions and actions and elsewhere, an edge and
options where they must not be, and entries that no field takes. -/
def keepsake : Value :=
  .ofFields [("QuestID", .text "Q2"), ("quest_version", .int 3), ("Repeatable", .null),
    ("note", .null), ("editor", .ofFields [("zoom", .null)]),
    ("display_name", .ofFields [("en-US", .text "Start"), ("fr", .text "Début"), ("it", .null)]),
    ("QuestNodes", .list [
      .ofFields [("NodeID", .int 1), ("NodeType", .text "EntryPoint"), ("next_nodes", .ofInts [2]),
        ("Conditions", .list [.ofFields [("hint", .null), ("QuestCompleted", .text "Q1")], .null]),
        ("Options", .list [.ofFields [("NextNodes", .ofInts [2, 9]), ("icon", .null)]])],
      .ofFields [("node_id", .bool true), ("NodeType", .text "Actions"), ("color", .text "red"),
        ("action_list", .list [.ofFields [("JournalEntry", .null)], .text "CompleteQuest"])]])]

/-- All of it comes back. -/
theorem keepsake_comesBack : ∃ q, Quest.ofDocument keepsake none = .ok q ∧
    (∀ r, keepsake.HasRecord r → r.GivesOnce) ∧
    ∃ q', Quest.ofDocument q.toDocument none = .ok q' ∧ q.ComesBack keepsake q' := by
  have hrecords : ∀ r ∈ keepsake.records, r.GivesOnce := by decide +kernel
  have honce : ∀ r, keepsake.HasRecord r → r.GivesOnce := fun r hr =>
    hrecords r (Value.mem_records_iff.2 hr)
  obtain ⟨q, hread⟩ : ∃ q, Quest.ofDocument keepsake none = .ok q := ⟨_, rfl⟩
  exact ⟨q, hread, honce, Quest.exists_comesBack hread honce⟩

end QuestFlow

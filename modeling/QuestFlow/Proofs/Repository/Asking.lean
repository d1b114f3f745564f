import QuestFlow.Proofs.Document.Record
import QuestFlow.Proofs.Files.Directory
import QuestFlow.Proofs.Quest.Identifier
import QuestFlow.Service

/-!
# Asking for a quest

The service lists the IDs of its quests and hands out the quest with a given ID.  The list is made
by loading every file.  A request looks through the files one after the other and stops at the first
quest with the ID, and before that the ID has to pass a gate of its own.

1. **Looking for a quest** is looking for the first one among all that are loaded, if they can be
   (`findQuest_of_loaded`).  The broken files on the way change nothing.
2. **The first one** is that of the first file, in the order of the paths, whose quest has the ID
   (`FirstWith`, `firstWith_of_find?`).
3. **The gate** lets every ID through that a document can have (`Quest.objection?_of_ofDocument`),
   so a listed ID is never refused.
4. **A directory** hands out what it lists and nothing else, if it can be listed
   (`handsOut_of_directory`).  If it cannot, because a path in it cannot be looked up, it hands out
   nothing (`attic_hands_out_nothing`).
-/

namespace QuestFlow

/-! ## Looking for a quest -/

namespace FileTree

variable {t : FileTree} {dir p : Path} {place : Place} {id : String} {q : Quest}
  {loaded : LoadedQuests}

/-- Going through files and stopping at a quest finds the first one among those that are loaded from
them, if loading breaks down over none. -/
theorem findAmong_of_read {paths : List Path} (hnone : ∀ p ∈ paths, t.breakdownAt? p = none)
    (id : String) : t.findAmong id paths = .ok ((t.loadedAmong paths).find? (·.id == id)) := by
  induction paths with
  | nil => rfl
  | cons p paths ih =>
    obtain ⟨hp, hpaths⟩ := List.forall_mem_cons.1 hnone
    rw [findAmong, ih hpaths, loadedAmong, loadedAmong, List.filterMap_cons]
    cases hload : t.loadQuest p with
    | ok q =>
      dsimp only [Except.toOption]
      rw [List.find?_cons]
      cases q.id == id <;> rfl
    | error e =>
      cases e with
      | broken e => rfl
      | breakdown b => simp [breakdownAt?, hload] at hp

/-- **Looking for a quest** is looking for the first one among all that are loaded. -/
theorem findQuest_of_loaded (hloaded : (t.loadQuests dir).value = .ok loaded) (id : String) :
    t.findQuest dir id = .ok (loaded.quests.find? (·.id == id)) := by
  obtain ⟨paths, hpaths, hnone, rfl⟩ := loadQuests_eq_ok_iff.1 hloaded
  rw [findQuest, hpaths]
  simp only [Except.bind, findAmong_of_read hnone, Except.mapError]

/-- What keeps the files from being found keeps the quest from being found. -/
theorem findQuest_of_error {e : Failure} (hpaths : t.questPaths dir = .error e) (id : String) :
    t.findQuest dir id = .error e := by
  rw [findQuest, hpaths]
  rfl

/-! ## The first one -/

/-- The file is the first one, in the order of the paths, that holds a quest with this ID. -/
structure FirstWith (t : FileTree) (dir : Path) (place : Place) (id : String) (p : Path)
    (q : Quest) : Prop where
  holds : ∃ held, t.IsQuestFile dir place p held ∧ questIn p held = .ok q
  asked : q.id = id
  first : ∀ p' held q', t.IsQuestFile dir place p' held → questIn p' held = .ok q' →
    q'.id = id → p' = p ∨ p.Before p'

/-- **The first quest** with an ID among those that are loaded is that of the first file with one,
because the quests stand in the order of their files. -/
theorem firstWith_of_find? (hhandles : t.Handles dir place loaded)
    (hfound : loaded.quests.find? (·.id == id) = some q) : ∃ p, t.FirstWith dir place id p q := by
  obtain ⟨hid, before, after, hsplit, hbefore⟩ := List.find?_eq_some_iff_append.1 hfound
  have hmem : q ∈ loaded.quests := hsplit ▸ List.mem_append_right before List.mem_cons_self
  obtain ⟨p, held, hfile, hquest⟩ := (hhandles.quests q).1 hmem
  have hsource := source_of_questIn hquest
  refine ⟨p, ⟨held, hfile, hquest⟩, beq_iff_eq.1 hid, ?_⟩
  intro p' held' q' hfile' hquest' hid'
  have hmem' : q' ∈ loaded.quests := (hhandles.quests q').2 ⟨p', held', hfile', hquest'⟩
  have hsource' := source_of_questIn hquest'
  rw [hsplit, List.mem_append, List.mem_cons] at hmem'
  rcases hmem' with hmem' | rfl | hmem'
  · -- the quests in front have other IDs
    have hother := hbefore q' hmem'
    rw [hid', beq_self_eq_true] at hother
    cases hother
  · exact .inl (Option.some.inj (hsource'.symm.trans hsource))
  · right
    have hrises := hhandles.risingQuests
    rw [hsplit, List.filterMap_append, List.filterMap_cons_some hsource, List.pairwise_append,
      List.pairwise_cons] at hrises
    exact hrises.2.1.1 p' (List.mem_filterMap.2 ⟨q', hmem', hsource'⟩)

end FileTree

/-! ## The gate -/

/-- An ID that a document can have is let through when it is asked for. -/
theorem QuestId.objection?_of_readId {v : Value} {id : String} (h : Quest.readId v = .ok id) :
    QuestId.objection? id = none := by
  obtain ⟨-, hshort, hform⟩ := Quest.readId_eq_ok_iff.1 h
  exact QuestId.objection?_eq_none_iff.2 ⟨hshort, .inl hform⟩

namespace Quest

variable {q : Quest}

/-- The document of a quest names its ID. -/
theorem field?_id_toDocument (q : Quest) : q.toDocument.field? "QuestID" = some (.text q.id) :=
  rfl

/-- So the ID of a quest that was read from a document is let through. -/
theorem objection?_of_ofDocument {document : Value} {source : Option Path}
    (h : ofDocument document source = .ok q) : QuestId.objection? q.id = none := by
  obtain ⟨es, q₀, -, hread, rfl⟩ := ofDocument_eq_ok_iff.1 h
  obtain ⟨name, v, -, hid⟩ := Spelled.required_eq_ok_iff.1 (readEntries_eq_ok_iff.1 hread).1
  exact QuestId.objection?_of_readId hid

end Quest

/-! ## Requests -/

namespace Service

variable {t : FileTree} {s : Settings} {place : Place} {id : String} {loaded : LoadedQuests}

/-- What is answered to a request for the IDs of the quests. -/
def listing (t : FileTree) (s : Settings) : Response := (respond t s .listQuests).value

/-- What is answered to a request for the quest with an ID. -/
def handing (t : FileTree) (s : Settings) (id : String) : Response :=
  (respond t s (.quest id)).value

theorem listing_eq (t : FileTree) (s : Settings) : listing t s =
    answer (fun ids => .body (.ofTexts ids))
      ((t.loadQuests s.questsDir).value.map fun loaded => loaded.quests.map (·.id)) := rfl

/-- The list of IDs, if the quests can be loaded. -/
theorem listing_of_loaded (hloaded : (t.loadQuests s.questsDir).value = .ok loaded) :
    listing t s = .body (.ofTexts (loaded.quests.map (·.id))) := by
  rw [listing_eq, hloaded]
  rfl

/-- The IDs that are listed are those of the quests that are loaded. -/
theorem exists_loaded_of_listing {ids : List String}
    (hlisting : listing t s = .body (.ofTexts ids)) :
    ∃ loaded, (t.loadQuests s.questsDir).value = .ok loaded ∧ ids = loaded.quests.map (·.id) := by
  cases hloaded : (t.loadQuests s.questsDir).value with
  | ok loaded =>
    rw [listing_of_loaded hloaded] at hlisting
    have hvalues : Value.ofTexts (loaded.quests.map (·.id)) = .ofTexts ids :=
      Response.body.inj hlisting
    have hinjective : Function.Injective Value.text := fun _ _ => Value.text.inj
    exact ⟨loaded, rfl, (List.map_injective_iff.2 hinjective (Value.list.inj hvalues)).symm⟩
  | error e =>
    rw [listing_eq, hloaded] at hlisting
    cases e <;> cases hlisting

/-- An ID that does not pass the gate is refused. -/
theorem handing_of_objection {objection : QuestId.Objection}
    (hgate : QuestId.objection? id = some objection) :
    handing t s id = .refusal 400 objection.message := by
  change quest t s id = _
  rw [quest, hgate]

/-- For one that does, the quests are looked through. -/
theorem handing_of_admitted (hgate : QuestId.objection? id = none)
    (hloaded : (t.loadQuests s.questsDir).value = .ok loaded) : handing t s id =
      match loaded.quests.find? (·.id == id) with
      | some q => .body (.ofFields [("quest", q.toDocument)])
      | none => .refusal 404 ("quest not found: " ++ id) := by
  change quest t s id = _
  rw [quest, hgate, FileTree.findQuest_of_loaded hloaded]
  dsimp only
  cases loaded.quests.find? (·.id == id) <;> rfl

/-- Without files there is nothing to look through. -/
theorem handing_of_error {e : Failure} (hgate : QuestId.objection? id = none)
    (hpaths : t.questPaths s.questsDir = .error e) : handing t s id = unusable e := by
  change quest t s id = _
  rw [quest, hgate, FileTree.findQuest_of_error hpaths]

/-- The ID of a loaded quest passes the gate. -/
theorem objection?_of_mem_loadQuests {q : Quest}
    (hloaded : (t.loadQuests s.questsDir).value = .ok loaded) (hq : q ∈ loaded.quests) :
    QuestId.objection? q.id = none := by
  obtain ⟨p, document, -, -, -, hquest⟩ := FileTree.exists_read_of_mem_loadQuests hloaded hq
  exact Quest.objection?_of_ofDocument hquest

/-- What the service promises about the quests of its directory. -/
structure HandsOut (t : FileTree) (s : Settings) (place : Place) : Prop where
  /-- all quests are listed -/
  lists : t.Listed place → t.AllFound s.questsDir place → t.AllRead s.questsDir place → ∃ loaded,
    (t.loadQuests s.questsDir).value = .ok loaded ∧
    listing t s = .body (.ofTexts (loaded.quests.map (·.id)))
  /-- looking for one finds the first of those that can be loaded, whatever was found of the
  files -/
  finds : ∀ loaded, (t.loadQuests s.questsDir).value = .ok loaded →
    ∀ id, t.findQuest s.questsDir id = .ok (loaded.quests.find? (·.id == id))
  /-- a listed ID is answered with the document of the first quest that has it -/
  listed : t.Listed place → ∀ ids, listing t s = .body (.ofTexts ids) → ∀ id ∈ ids, ∃ p q,
    t.FirstWith s.questsDir place id p q ∧ t.findQuest s.questsDir id = .ok (some q) ∧
    handing t s id = .body (.ofFields [("quest", q.toDocument)]) ∧
    q.toDocument.field? "QuestID" = some (.text id)
  /-- any other is refused: no quest can have it, or none has -/
  unlisted : ∀ ids, listing t s = .body (.ofTexts ids) → ∀ id, id ∉ ids →
    t.findQuest s.questsDir id = .ok none ∧
    ∃ status detail, handing t s id = .refusal status detail ∧ (status = 400 ∨ status = 404)
  /-- a path that cannot be looked up keeps all quests from being listed and from being handed
  out -/
  unreachable : t.Listed place → ¬ t.AllFound s.questsDir place → ∃ e : SourceError,
    (t.loadQuests s.questsDir).value = .error (.source e) ∧
    listing t s = .refusal 500 e.message ∧
    ∀ id, t.findQuest s.questsDir id = .error (.source e) ∧
      (handing t s id = .refusal 500 e.message ∨ ∃ detail, handing t s id = .refusal 400 detail)

theorem listed_of_listing (h : t.WellFormed) (hdir : t.directory .quests s.questsDir = .ok place)
    (hfiles : t.Listed place) {ids : List String}
    (hlisting : listing t s = .body (.ofTexts ids)) (hid : id ∈ ids) : ∃ p q,
      t.FirstWith s.questsDir place id p q ∧ t.findQuest s.questsDir id = .ok (some q) ∧
      handing t s id = .body (.ofFields [("quest", q.toDocument)]) ∧
      q.toDocument.field? "QuestID" = some (.text id) := by
  obtain ⟨loaded, hloaded, rfl⟩ := exists_loaded_of_listing hlisting
  obtain ⟨q₀, hq₀, rfl⟩ := List.mem_map.1 hid
  have hgate := objection?_of_mem_loadQuests hloaded hq₀
  have hsome : (loaded.quests.find? (·.id == q₀.id)).isSome = true :=
    List.find?_isSome.2 ⟨q₀, hq₀, beq_self_eq_true _⟩
  obtain ⟨q, hfound⟩ := Option.isSome_iff_exists.1 hsome
  obtain ⟨hall, hread⟩ := FileTree.found_of_loadQuests h hdir hfiles hloaded
  obtain ⟨loaded', hloaded', hhandles⟩ := FileTree.handles_of_found h hdir hfiles hall hread
  obtain rfl := Except.ok.inj (hloaded.symm.trans hloaded')
  obtain ⟨p, hfirst⟩ := FileTree.firstWith_of_find? hhandles hfound
  refine ⟨p, q, hfirst, ?_, ?_, ?_⟩
  · rw [FileTree.findQuest_of_loaded hloaded, hfound]
  · rw [handing_of_admitted hgate hloaded, hfound]
  · rw [q.field?_id_toDocument, hfirst.asked]

theorem unlisted_of_listing {ids : List String} (hlisting : listing t s = .body (.ofTexts ids))
    (hid : id ∉ ids) : t.findQuest s.questsDir id = .ok none ∧
      ∃ status detail, handing t s id = .refusal status detail ∧
        (status = 400 ∨ status = 404) := by
  obtain ⟨loaded, hloaded, rfl⟩ := exists_loaded_of_listing hlisting
  have hnone : loaded.quests.find? (·.id == id) = none := by
    rw [List.find?_eq_none]
    intro q hq hsame
    exact hid (List.mem_map.2 ⟨q, hq, beq_iff_eq.1 hsame⟩)
  refine ⟨?_, ?_⟩
  · rw [FileTree.findQuest_of_loaded hloaded, hnone]
  · cases hgate : QuestId.objection? id with
    | some objection => exact ⟨400, _, handing_of_objection hgate, .inl rfl⟩
    | none =>
      refine ⟨404, "quest not found: " ++ id, ?_, .inr rfl⟩
      rw [handing_of_admitted hgate hloaded, hnone]

/-- A broken file, and two files with quests of the same ID behind it. -/
def cabinet : FileTree :=
  { here := []
    entries := [(["quests"], .directory), (["quests", "a.yaml"], .file .empty),
      (["quests", "b.yml"], .file (.ofDocument (.ofFields [("QuestID", .text "Q1")]))),
      (["quests", "c.yaml"], .file (.ofDocument (.ofFields
        [("QuestID", .text "Q1"), ("QuestVersion", .int 2)])))] }

end Service
end QuestFlow

import QuestFlow.Proofs.Graph.Gathering
import QuestFlow.Proofs.Graph.Renaming
import QuestFlow.Repository.SharedRules

/-!
# What quests share

Three rules report what two quests must not share: an ID, a display name, a text that describes a
stage.  Each gathers the quests by what they carry, and the report shows the order in which they
were loaded, whatever the quests repeat and however they are mixed.

1. **First occurrences** — the crux: dropping repeats keeps the order of first occurrence, also
   among the members that pass a test (`pairwise_idxOf_filter`).  The keys of a gathered table are
   the mentioned ones without repeats (`Groups.keys_collect`), so they stand in that order.
2. **Clashes** — `Clashes` says which texts have a group, in what order, and which quests each
   group lists, in what order.  What the rules gather is that (`clashes_shared`).
3. **The rules** — `sharingReported` has all three of them, for every list of quests and of
   locales.
-/

namespace QuestFlow

/-! ## First occurrences -/

section Order

variable {α : Type} [DecidableEq α]

/-- What is left without repeats stands in the order of first occurrence, and a test may choose the
members. -/
theorem pairwise_idxOf_filter (xs : List α) (passes : α → Bool) :
    (xs.filter passes).eraseDups.Pairwise fun a b => xs.idxOf a < xs.idxOf b := by
  induction xs generalizing passes with
  | nil => exact List.Pairwise.nil
  | cons x xs ih =>
    -- all others stand one further on than they do behind the first
    have hlater : ∀ {test : α → Bool}, test x = false →
        (xs.filter test).eraseDups.Pairwise fun a b => (x :: xs).idxOf a < (x :: xs).idxOf b := by
      intro test hx
      refine (ih test).imp_of_mem fun {a b} ha hb hlt => ?_
      have hne : ∀ {y}, y ∈ (xs.filter test).eraseDups → x ≠ y := by
        rintro y hy rfl
        have hpasses := (List.mem_filter.1 (List.mem_eraseDups.1 hy)).2
        rw [hx] at hpasses
        cases hpasses
      rw [List.idxOf_cons_ne _ (hne ha), List.idxOf_cons_ne _ (hne hb)]
      exact Nat.succ_lt_succ hlt
    cases hx : passes x with
    | false =>
      rw [List.filter_cons_of_neg (by simp [hx])]
      exact hlater hx
    | true =>
      rw [List.filter_cons_of_pos hx, List.eraseDups_cons, List.filter_filter, List.pairwise_cons]
      refine ⟨fun y hy => ?_, hlater (by simp)⟩
      have hne : x ≠ y := by
        rintro rfl
        simpa using (List.mem_filter.1 (List.mem_eraseDups.1 hy)).2
      rw [List.idxOf_cons_self, List.idxOf_cons_ne _ hne]
      exact Nat.succ_pos _

theorem pairwise_idxOf_eraseDups (xs : List α) :
    xs.eraseDups.Pairwise fun a b => xs.idxOf a < xs.idxOf b := by
  have hall := pairwise_idxOf_filter xs fun _ => true
  rwa [List.filter_true] at hall

omit [DecidableEq α] in
/-- A list without repeats has two members just where it has two different ones. -/
theorem one_lt_length_iff_of_nodup {xs : List α} (hnodup : xs.Nodup) :
    1 < xs.length ↔ ∃ a ∈ xs, ∃ b ∈ xs, a ≠ b := by
  match xs, hnodup with
  | [], _ => simp
  | [a], _ => simp
  | a :: b :: xs, hnodup =>
    have hne : a ≠ b := by
      rintro rfl
      exact (List.nodup_cons.1 hnodup).1 List.mem_cons_self
    exact iff_of_true (by simp) ⟨a, by simp, b, by simp, hne⟩

end Order

namespace Groups

variable {κ α : Type} [DecidableEq κ]

theorem keys_foldl (arrivals : List (κ × List α)) (gs : Groups κ α) :
    keys (arrivals.foldl (fun gs (key, values) => add key values gs) gs) =
      keys gs ++ ((arrivals.map (·.1)).filter (· ∉ keys gs)).eraseDups := by
  induction arrivals generalizing gs with
  | nil => simp
  | cons arrival arrivals ih =>
    obtain ⟨key, values⟩ := arrival
    rw [List.foldl_cons, ih, keys_add, List.map_cons]
    by_cases hkey : key ∈ keys gs
    · rw [if_pos hkey, List.filter_cons_of_neg (by simpa using hkey)]
    · have hothers : ((arrivals.map (·.1)).filter (· ∉ keys gs ++ [key])) =
          ((arrivals.map (·.1)).filter (· ∉ keys gs)).filter fun k => !k == key := by
        rw [List.filter_filter]
        refine List.filter_congr fun k _ => ?_
        by_cases hk : k = key <;> simp [hk]
      rw [if_neg hkey, List.filter_cons_of_pos (by simpa using hkey), List.eraseDups_cons,
        hothers, List.append_assoc, List.singleton_append]

/-- The keys are those that were mentioned, in the order of first mention. -/
theorem keys_collect (arrivals : List (κ × List α)) :
    keys (collect arrivals) = (arrivals.map (·.1)).eraseDups := by
  rw [collect, keys_foldl]
  simp [keys]

/-- A table that gathers single values: each key in the order of first mention, with the values that
came under it. -/
theorem collect_map_singleton {β : Type} (key : β → κ) (value : β → α) (xs : List β) :
    collect (xs.map fun x => (key x, [value x])) =
      (xs.map key).eraseDups.map fun k => (k, (xs.filter (key · = k)).map value) := by
  have hkeys : keys (collect (xs.map fun x => (key x, [value x]))) = (xs.map key).eraseDups := by
    rw [keys_collect, List.map_map]
    rfl
  have hgroup : ∀ (k : κ) (ys : List β),
      ys.flatMap (fun y => if key y = k then [value y] else []) =
        (ys.filter (key · = k)).map value := by
    intro k ys
    induction ys with
    | nil => rfl
    | cons y ys ih =>
      rw [List.flatMap_cons, ih, List.filter_cons]
      by_cases hkey : key y = k <;> simp [hkey]
  rw [collect_eq_map_keys, hkeys]
  refine List.map_congr_left fun k _ => ?_
  rw [get_collect, List.flatMap_map, ← hgroup]

end Groups

/-! ## Clashes -/

/-- The quests that carry a text, each once, in the order in which they first carry it. -/
def carriersOf (carried : List (String × String)) (text : String) : List String :=
  ((carried.filter (·.1 == text)).map (·.2)).eraseDups

theorem mem_carriersOf_iff {carried : List (String × String)} {text id : String} :
    id ∈ carriersOf carried text ↔ (text, id) ∈ carried := by
  simp [carriersOf]

theorem nodup_carriersOf (carried : List (String × String)) (text : String) :
    (carriersOf carried text).Nodup :=
  nodup_eraseDups _

theorem pairwise_carriersOf (carried : List (String × String)) (text : String) :
    (carriersOf carried text).Pairwise fun a b =>
      carried.idxOf (text, a) < carried.idxOf (text, b) := by
  -- pairs are compared part by part here, and as wholes in the lemmas
  rw [lawful_beq_subsingleton instBEqProd instBEqOfDecidableEq]
  have hpairs : ((carried.filter (·.1 == text)).map (·.2)).map (Prod.mk text) =
      carried.filter (·.1 == text) := by
    rw [List.map_map]
    refine (List.map_congr_left fun pair hpair => ?_).trans (List.map_id _)
    have htext : pair.1 = text := by simpa using (List.mem_filter.1 hpair).2
    rw [Function.comp_apply, ← htext, id]
  have horder := pairwise_idxOf_filter carried (·.1 == text)
  rw [← hpairs, eraseDups_map (Prod.mk_right_injective text), List.pairwise_map] at horder
  exact horder

/-- What a report says of the texts that quests carry, given where the texts occur: each occurrence
is a text and the ID of its quest. -/
structure Clashes (occurrences : List (String × String)) (groups : Groups String String) :
    Prop where
  text_iff : ∀ text, text ∈ groups.map (·.1) ↔
    text ≠ "" ∧ ∃ a b, a ≠ b ∧ (text, a) ∈ occurrences ∧ (text, b) ∈ occurrences
  /-- each text once, in the order in which the texts first occur -/
  texts_order : (groups.map (·.1)).Pairwise fun s t =>
    (occurrences.map (·.1)).idxOf s < (occurrences.map (·.1)).idxOf t
  quest_iff : ∀ group ∈ groups, ∀ id, id ∈ group.2 ↔ (group.1, id) ∈ occurrences
  /-- each quest once, in the order in which they first carry the text -/
  quests_order : ∀ group ∈ groups, group.2.Pairwise fun a b =>
    occurrences.idxOf (group.1, a) < occurrences.idxOf (group.1, b)

namespace SharedFindings

/-- The shared values, each with its carriers. -/
theorem shared_eq (carried : List (String × String)) : shared carried =
    ((carried.map (·.1)).eraseDups.filter fun text => 1 < (carriersOf carried text).length).map
      fun text => (text, carriersOf carried text) := by
  have hgathered := Groups.collect_map_singleton Prod.fst Prod.snd carried
  have hshared : shared carried =
      ((Groups.collect (carried.map fun pair => (pair.1, [pair.2]))).map
        fun group => (group.1, group.2.eraseDups)).filter fun group => group.2.length > 1 := rfl
  rw [hshared, hgathered, List.map_map, List.filter_map]
  rfl

/-- **What is gathered** from the texts that are not empty. -/
theorem clashes_shared (occurrences : List (String × String)) :
    Clashes occurrences (shared (occurrences.filter fun (text, _) => text != "")) := by
  let carried := occurrences.filter fun (text, _) => text != ""
  have hcarriers : ∀ {text}, text ≠ "" →
      carriersOf carried text = carriersOf occurrences text := by
    intro text hfilled
    rw [carriersOf, carriersOf, List.filter_filter]
    congr 2
    refine List.filter_congr fun pair _ => ?_
    by_cases htext : pair.1 = text <;> simp [htext, hfilled]
  have htexts : carried.map (·.1) = (occurrences.map (·.1)).filter (· != "") := by
    rw [List.filter_map]
    rfl
  have hmem : ∀ {text}, text ∈ (carried.map (·.1)).eraseDups ↔
      text ≠ "" ∧ text ∈ occurrences.map (·.1) := by
    intro text
    rw [List.mem_eraseDups, htexts, List.mem_filter, bne_iff_ne, and_comm]
  have hkeys : (shared carried).map (·.1) =
      (carried.map (·.1)).eraseDups.filter fun text => 1 < (carriersOf carried text).length := by
    rw [shared_eq, List.map_map]
    exact List.map_id _
  have hgroup : ∀ group ∈ shared carried, group.2 = carriersOf occurrences group.1 := by
    intro group hgroup
    rw [shared_eq] at hgroup
    obtain ⟨text, htext, rfl⟩ := List.mem_map.1 hgroup
    exact hcarriers (hmem.1 (List.mem_filter.1 htext).1).1
  refine ⟨fun text => ?_, ?_, fun group hin id => ?_, fun group hin => ?_⟩
  · rw [hkeys, List.mem_filter, hmem, decide_eq_true_iff,
      one_lt_length_iff_of_nodup (nodup_carriersOf _ _)]
    constructor
    · rintro ⟨⟨hfilled, -⟩, a, ha, b, hb, hne⟩
      rw [hcarriers hfilled, mem_carriersOf_iff] at ha hb
      exact ⟨hfilled, a, b, hne, ha, hb⟩
    · rintro ⟨hfilled, a, b, hne, ha, hb⟩
      rw [← mem_carriersOf_iff, ← hcarriers hfilled] at ha hb
      refine ⟨⟨hfilled, ?_⟩, a, ha, b, hb, hne⟩
      rw [hcarriers hfilled, mem_carriersOf_iff] at ha
      exact List.mem_map_of_mem ha
  · rw [hkeys, htexts]
    exact (pairwise_idxOf_filter _ _).filter _
  · rw [hgroup group hin, mem_carriersOf_iff]
  · rw [hgroup group hin]
    exact pairwise_carriersOf occurrences group.1

example : shared [("Dawn", "Q1"), ("Dusk", "Q2"), ("Dawn", "Q1"), ("Dawn", "Q3")] =
    [("Dawn", ["Q1", "Q3"])] := by
  decide

end SharedFindings

/-! ## The rules -/

/-- The display names in a locale, each with the ID of its quest, in load order. -/
def nameOccurrences (quests : List Quest) (locale : String) : List (String × String) :=
  quests.map fun q => (q.displayName.get locale, q.id)

/-- The text by which an action describes the stage in a locale, if it does. -/
def Action.stageText? (a : Action) (locale : String) : Option String :=
  match a.effect with
  | .stageDescription texts => texts.lookup locale
  | _ => none

/-- The texts by which a quest describes its stages in a locale. -/
def Quest.stageTexts (q : Quest) (locale : String) : List String :=
  q.nodes.flatMap fun n => n.actions.filterMap (·.stageText? locale)

/-- All these texts, each with the ID of its quest, in load order. -/
def stageOccurrences (quests : List Quest) (locale : String) : List (String × String) :=
  quests.flatMap fun q => (q.stageTexts locale).map (·, q.id)

theorem Action.stageText?_eq_some_iff {a : Action} {locale text : String} :
    a.stageText? locale = some text ↔
      ∃ texts, a.effect = .stageDescription texts ∧ texts.lookup locale = some text := by
  rw [stageText?]
  cases a.effect <;> simp

theorem Action.stageText_eq (a : Action) (locale : String) :
    a.stageText locale = (a.stageText? locale).getD "" := by
  rw [stageText, stageText?]
  cases a.effect <;> rfl

namespace SharedFindings

/-- The rule leaves out what describes no stage and what describes it by nothing. -/
theorem stages_eq (quests : List Quest) (locale : String) : stages quests locale =
    (stageOccurrences quests locale).filter fun (text, _) => text != "" := by
  have hactions : ∀ (id : String) (actions : List Action),
      (actions.map fun a => (a.stageText locale, id)).filter (fun (text, _) => text != "") =
        ((actions.filterMap (·.stageText? locale)).map (·, id)).filter
          fun (text, _) => text != "" := by
    intro id actions
    induction actions with
    | nil => rfl
    | cons a actions ih =>
      rw [List.map_cons, List.filter_cons, ih, Action.stageText_eq, List.filterMap_cons]
      cases a.stageText? locale with
      | none => rfl
      | some text => rw [List.map_cons, List.filter_cons, Option.getD_some]
  rw [stages, stageOccurrences, List.filter_flatMap, List.filter_flatMap]
  refine congrArg (List.flatMap · quests) (funext fun q => ?_)
  rw [hactions, Quest.stageTexts, List.filterMap_flatMap]

/-- The IDs that several quests have, in order of first occurrence. -/
theorem uniqueIds_eq_map (quests : List Quest) : uniqueIds quests =
    ((quests.map (·.id)).eraseDups.filter fun id => 2 ≤ (quests.map (·.id)).count id).map
      fun id => ⟨.sharedId id ((quests.map (·.id)).count id)
        ((quests.filter (·.id == id)).filterMap (·.source)), none, none⟩ := by
  have hcount : ∀ id, (quests.filter (·.id = id)).length = (quests.map (·.id)).count id := by
    intro id
    rw [List.count, List.countP_map, List.countP_eq_length_filter]
    rfl
  have hgathered : Groups.collect (quests.map fun q => (q.id, [q])) =
      (quests.map (·.id)).eraseDups.map fun id => (id, quests.filter (·.id = id)) := by
    simpa using Groups.collect_map_singleton (·.id) (fun q => q) quests
  have hpicked : ∀ (ids : List String) (several : String → Bool) (report : String → SharedFinding),
      (ids.filter several).map report =
        ids.filterMap fun id => if several id then some (report id) else none := by
    intro ids several report
    rw [← List.filterMap_eq_map, List.filterMap_filter]
    rfl
  rw [uniqueIds, hgathered, List.filterMap_map, hpicked]
  refine List.filterMap_congr fun id _ => ?_
  simp only [Function.comp_apply, hcount, decide_eq_true_iff]
  by_cases hshared : 2 ≤ (quests.map (·.id)).count id
  · rw [if_neg (Nat.not_lt_of_le hshared), if_pos hshared]
    rfl
  · rw [if_pos (Nat.lt_of_not_le hshared), if_neg hshared]

end SharedFindings

/-- What the rules about shared IDs, names and descriptions report. -/
structure SharingReported (quests : List Quest) : Prop where
  /-- each ID that several quests have, with their number and the files they come from -/
  ids : ∃ ids : List String,
    (∀ id, id ∈ ids ↔ 2 ≤ (quests.map (·.id)).count id) ∧
    (ids.Pairwise fun a b => (quests.map (·.id)).idxOf a < (quests.map (·.id)).idxOf b) ∧
    SharedFindings.uniqueIds quests = ids.map fun id =>
      ⟨.sharedId id ((quests.map (·.id)).count id)
        ((quests.filter (·.id == id)).filterMap (·.source)), none, none⟩
  /-- the shared names of each locale in turn -/
  names : ∃ groups : String → Groups String String,
    (∀ locale, Clashes (nameOccurrences quests locale) (groups locale)) ∧
    ∀ locales, SharedFindings.uniqueNames quests locales = locales.flatMap fun locale =>
      (groups locale).map fun (name, ids) => ⟨.sharedName name locale ids, none, none⟩
  /-- the shared descriptions of each locale in turn -/
  stages : ∃ groups : String → Groups String String,
    (∀ locale, Clashes (stageOccurrences quests locale) (groups locale)) ∧
    ∀ locales, SharedFindings.uniqueStages quests locales = locales.flatMap fun locale =>
      (groups locale).map fun (text, ids) => ⟨.sharedStage text locale ids, none, none⟩
  /-- a stage is described where an action of a node does so -/
  stage_iff : ∀ locale text id, (text, id) ∈ stageOccurrences quests locale ↔
    ∃ q ∈ quests, q.id = id ∧ ∃ n ∈ q.nodes, ∃ a ∈ n.actions, ∃ texts,
      a.effect = .stageDescription texts ∧ texts.lookup locale = some text

theorem sharingReported (quests : List Quest) : SharingReported quests where
  ids := by
    refine ⟨_, fun id => ?_, ?_, SharedFindings.uniqueIds_eq_map quests⟩
    · rw [List.mem_filter, List.mem_eraseDups, decide_eq_true_iff, and_iff_right_iff_imp]
      exact fun hcount => List.count_pos_iff.1 (Nat.lt_of_lt_of_le Nat.zero_lt_two hcount)
    · exact (pairwise_idxOf_eraseDups _).filter _
  names := ⟨fun locale => SharedFindings.shared (SharedFindings.names quests locale),
    fun _ => SharedFindings.clashes_shared _, fun _ => rfl⟩
  stages := by
    refine ⟨fun locale => SharedFindings.shared (SharedFindings.stages quests locale),
      fun locale => ?_, fun _ => rfl⟩
    show Clashes _ (SharedFindings.shared (SharedFindings.stages quests locale))
    rw [SharedFindings.stages_eq]
    exact SharedFindings.clashes_shared _
  stage_iff := by
    intro locale text id
    simp only [stageOccurrences, Quest.stageTexts, List.mem_flatMap, List.mem_map,
      List.mem_filterMap, Action.stageText?_eq_some_iff, Prod.mk.injEq]
    constructor
    · rintro ⟨q, hq, text', ⟨n, hn, a, ha, htext⟩, rfl, rfl⟩
      exact ⟨q, hq, rfl, n, hn, a, ha, htext⟩
    · rintro ⟨q, hq, rfl, n, hn, a, ha, htext⟩
      exact ⟨q, hq, text, ⟨n, hn, a, ha, htext⟩, rfl, rfl⟩

end QuestFlow

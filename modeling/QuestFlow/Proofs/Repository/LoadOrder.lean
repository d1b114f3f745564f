import QuestFlow.Proofs.Graph.Gathering
import QuestFlow.Repository.Checking

/-!
# The order of the quests

Quests are checked in the order in which they were loaded, and a report shows that order: the issues
of single quests stand in it, and so do the quests that an issue about several of them names.  What
a report says of how much is wrong does not depend on it (`checkQuests_perm`).

1. **One quest** has the same issues wherever it stands, so those of all quests are reordered with
   them.
2. **Quests that share something** are gathered by what they share.  Each group of two or more is
   an issue, and there are as many of those in any order (`length_shared_perm`,
   `length_uniqueIds_perm`).  Their messages do change with the order: they name the quests in it.
3. **References** are looked up among the IDs of all quests, which are the same IDs in any order
   (`references_perm`).
-/

namespace QuestFlow

variable {qs qs' : List Quest}

namespace SharedFindings

/-! ## Quests that share something -/

/-- As many values are shared, whatever the order in which the quests carry them. -/
theorem length_shared_perm {carried carried' : List (String × String)}
    (hperm : carried'.Perm carried) : (shared carried').length = (shared carried).length := by
  simp only [shared, ← List.countP_eq_length_filter, List.countP_map]
  refine Groups.countP_collect_perm (hperm.map _) fun value quests' quests hquests => ?_
  simp only [Function.comp_apply, (eraseDups_perm hquests).length_eq]

/-- As many IDs are used twice. -/
theorem length_uniqueIds_perm (hperm : qs'.Perm qs) :
    (uniqueIds qs').length = (uniqueIds qs).length := by
  simp only [uniqueIds, List.length_filterMap_eq_countP]
  refine Groups.countP_collect_perm (hperm.map _) fun id members' members hmembers => ?_
  dsimp only
  rw [hmembers.length_eq]
  split <;> rfl

/-- The quests carry the same names. -/
theorem names_perm (hperm : qs'.Perm qs) (locale : String) :
    (names qs' locale).Perm (names qs locale) :=
  (hperm.map _).filter _

/-- The quests describe stages by the same texts. -/
theorem stages_perm (hperm : qs'.Perm qs) (locale : String) :
    (stages qs' locale).Perm (stages qs locale) :=
  (hperm.flatMap_right _).filter _

/-- As many names are shared in each locale. -/
theorem length_uniqueNames_perm (hperm : qs'.Perm qs) (locales : List String) :
    (uniqueNames qs' locales).length = (uniqueNames qs locales).length := by
  simp only [uniqueNames, List.length_flatMap, List.length_map,
    length_shared_perm (names_perm hperm _)]

/-- As many descriptions are shared in each locale. -/
theorem length_uniqueStages_perm (hperm : qs'.Perm qs) (locales : List String) :
    (uniqueStages qs' locales).length = (uniqueStages qs locales).length := by
  simp only [uniqueStages, List.length_flatMap, List.length_map,
    length_shared_perm (stages_perm hperm _)]

/-! ## References -/

/-- The same references lead nowhere, each as often. -/
theorem references_perm (hperm : qs'.Perm qs) : (references qs').Perm (references qs) := by
  have hknown : ∀ id, (qs'.map (·.id)).contains id = (qs.map (·.id)).contains id := fun id =>
    (hperm.map _).contains_eq
  simp only [references, hknown]
  exact hperm.flatMap_right _

end SharedFindings

/-! ## The report -/

/-- There are as many issues about several quests. -/
theorem length_sharedIssues_perm (hperm : qs'.Perm qs) (locales : List String) :
    (sharedIssues qs' locales).length = (sharedIssues qs locales).length := by
  simp only [sharedIssues, SharedFindings.all, List.length_map, List.length_append,
    SharedFindings.length_uniqueIds_perm hperm, SharedFindings.length_uniqueNames_perm hperm,
    SharedFindings.length_uniqueStages_perm hperm,
    (SharedFindings.references_perm hperm).length_eq]

/-- What the reports about two lists of quests have in common that hold the same quests. -/
structure SameTally (catalog : Catalog) (settings : Settings) (qs' qs : List Quest) : Prop where
  count : (checkQuests qs' catalog settings).value.count =
    (checkQuests qs catalog settings).value.count
  exitCode : (checkQuests qs' catalog settings).value.exitCode =
    (checkQuests qs catalog settings).value.exitCode
  /-- the issues of single quests, each as often -/
  questIssues : (checkQuests qs' catalog settings).value.questIssues.Perm
    (checkQuests qs catalog settings).value.questIssues
  sharedIds : (SharedFindings.uniqueIds qs').length = (SharedFindings.uniqueIds qs).length
  /-- in all locales together, and in each by itself -/
  sharedNames : ∀ locales, (SharedFindings.uniqueNames qs' locales).length =
    (SharedFindings.uniqueNames qs locales).length
  sharedStages : ∀ locales, (SharedFindings.uniqueStages qs' locales).length =
    (SharedFindings.uniqueStages qs locales).length
  /-- the very same references, each as often -/
  references : (SharedFindings.references qs').Perm (SharedFindings.references qs)

/-- **The order of the quests changes no count**: quests that were loaded in another order have as
many issues of each kind, and those about a single quest are the same. -/
theorem checkQuests_perm (hperm : qs'.Perm qs) (catalog : Catalog) (settings : Settings) :
    SameTally catalog settings qs' qs := by
  have hissues : (checkQuests qs' catalog settings).value.questIssues.Perm
      (checkQuests qs catalog settings).value.questIssues := hperm.flatMap_right _
  have hcount : (checkQuests qs' catalog settings).value.count =
      (checkQuests qs catalog settings).value.count := by
    have hshared := length_sharedIssues_perm hperm settings.locales
    simp only [Report.count, hissues.length_eq]
    exact congrArg _ hshared
  exact {
    count := hcount
    exitCode := by rw [Report.exitCode, Report.exitCode, Report.hasIssues, Report.hasIssues, hcount]
    questIssues := hissues
    sharedIds := SharedFindings.length_uniqueIds_perm hperm
    sharedNames := SharedFindings.length_uniqueNames_perm hperm
    sharedStages := SharedFindings.length_uniqueStages_perm hperm
    references := SharedFindings.references_perm hperm }

/-- Three quests, two of them with the same ID; two that share a name, and two that describe a stage
alike, one of them twice; and one that waits for a quest that is not there. -/
def rivals : List Quest :=
  let stage : Action := .ofValue
    (.ofFields [("QuestStageDescription", .ofFields [("en-US", .text "Begin")])])
  let third : Condition := .ofValue (.ofFields [("QuestCompleted", .text "Q3")])
  [{ id := "Q1", displayName := { english := "Rivals" },
      nodes := [⟨1, [], .actions {} [stage, stage], []⟩] },
    { id := "Q2", displayName := { english := "Rivals" },
      nodes := [⟨1, [third], .actions {} [stage], []⟩] },
    { id := "Q1", source := some ⟨.here, ["copy.yaml"]⟩ }]

/-- The last quest comes first and its ID is still used twice. -/
theorem checkQuests_reverse_rivals :
    rivals.reverse.Perm rivals ∧ SameTally {} {} rivals.reverse rivals ∧
      (SharedFindings.uniqueIds rivals).length = 1 := by
  have hperm : rivals.reverse.Perm rivals := List.reverse_perm _
  exact ⟨hperm, checkQuests_perm hperm {} {}, rfl⟩

end QuestFlow

import Mathlib.Data.List.Forall2
import QuestFlow.Proofs.Graph.Renaming
import QuestFlow.Repository.SharedRules

/-!
# What the shared rules see of a quest

The rules about all quests together read little of each: its ID, its file, its names, its actions,
and the conditions of its nodes.  `Quest.Alike` relates two quests that agree in this, and
`sharedIssues_congr` says that quests may be exchanged for such in any number and at any place.

The rule about IDs gathers whole quests by their ID, but asks of them only where they come from.  So
it is the same to gather the files instead (`SharedFindings.uniqueIds_eq`).
-/

namespace QuestFlow

/-- To the shared rules the quests are the same. -/
structure Quest.Alike (q' q : Quest) : Prop where
  id : q'.id = q.id
  source : q'.source = q.source
  names : ∀ locale, q'.displayName.get locale = q.displayName.get locale
  actions : q'.nodes.flatMap (·.actions) = q.nodes.flatMap (·.actions)
  conditions : (q'.nodes.map fun n => (n.id, n.allConditions)) =
    q.nodes.map fun n => (n.id, n.allConditions)

theorem Quest.Alike.refl (q : Quest) : q.Alike q := ⟨rfl, rfl, fun _ => rfl, rfl, rfl⟩

variable {qs qs' : List Quest}

/-- What is the same for two alike quests makes the same list. -/
theorem Quest.Alike.map_eq {α : Type} {g : Quest → α} (h : List.Forall₂ Quest.Alike qs' qs)
    (hsame : ∀ q' q : Quest, q'.Alike q → g q' = g q) : qs'.map g = qs.map g := by
  induction h with
  | nil => rfl
  | cons hq _ ih => rw [List.map_cons, List.map_cons, hsame _ _ hq, ih]

namespace SharedFindings

/-- The rule about IDs, with the files of the quests in the place of the quests. -/
theorem uniqueIds_eq (quests : List Quest) : uniqueIds quests =
    (Groups.collect (quests.map fun q => (q.id, [q.source]))).filterMap fun (id, sources) =>
      if sources.length < 2 then none
      else some ⟨.sharedId id sources.length (sources.filterMap fun s => s), none, none⟩ := by
  have harrivals : (quests.map fun q => (q.id, [q.source])) =
      Groups.image id Quest.source (quests.map fun q => (q.id, [q])) := by
    rw [Groups.image, List.map_map]
    rfl
  rw [harrivals, Groups.collect_image Function.injective_id, Groups.image, List.filterMap_map,
    uniqueIds]
  refine List.filterMap_congr fun group _ => ?_
  simp only [Function.comp_apply, List.length_map, List.filterMap_map]
  rfl

theorem uniqueIds_congr (h : List.Forall₂ Quest.Alike qs' qs) : uniqueIds qs' = uniqueIds qs := by
  have harrivals : (qs'.map fun q => (q.id, [q.source])) = qs.map fun q => (q.id, [q.source]) :=
    Quest.Alike.map_eq h fun q' q hq => by rw [hq.id, hq.source]
  rw [uniqueIds_eq, uniqueIds_eq, harrivals]

theorem names_congr (h : List.Forall₂ Quest.Alike qs' qs) (locale : String) :
    names qs' locale = names qs locale := by
  have hnames : (qs'.map fun q => (q.displayName.get locale, q.id)) =
      qs.map fun q => (q.displayName.get locale, q.id) :=
    Quest.Alike.map_eq h fun q' q hq => by rw [hq.id, hq.names]
  rw [names, names, hnames]

theorem stages_congr (h : List.Forall₂ Quest.Alike qs' qs) (locale : String) :
    stages qs' locale = stages qs locale := by
  have hstages : (qs'.map fun q =>
        (q.nodes.flatMap (·.actions)).map fun a => (a.stageText locale, q.id)) =
      qs.map fun q => (q.nodes.flatMap (·.actions)).map fun a => (a.stageText locale, q.id) :=
    Quest.Alike.map_eq h fun q' q hq => by rw [hq.id, hq.actions]
  rw [stages, stages, List.flatMap_def, List.flatMap_def, hstages]

theorem references_congr (h : List.Forall₂ Quest.Alike qs' qs) :
    references qs' = references qs := by
  have hknown : qs'.map (·.id) = qs.map (·.id) := Quest.Alike.map_eq h fun _ _ hq => hq.id
  -- what is missing at a node is told by its ID and its conditions
  have hmissing : ∀ (q : Quest) (known : List String), (q.nodes.flatMap fun n =>
      ((completedQuests n).filter fun id => !known.contains id).map fun id =>
        SharedFinding.mk (.missingQuest id) (some n.id) (some q.id)) =
      (q.nodes.map fun n => (n.id, n.allConditions)).flatMap fun (node, conditions) =>
        ((conditions.filterMap (·.completedQuest?)).filter fun id => !known.contains id).map
          fun id => ⟨.missingQuest id, some node, some q.id⟩ := by
    intro q known
    rw [List.flatMap_map]
    rfl
  simp only [references, hmissing, hknown, List.flatMap_def (l := qs'), List.flatMap_def (l := qs)]
  refine congrArg List.flatten (Quest.Alike.map_eq h fun q' q hq => ?_)
  rw [hq.conditions, hq.id]

end SharedFindings

/-- **Alike quests may be exchanged**: the issues of all quests together stay the same. -/
theorem sharedIssues_congr (h : List.Forall₂ Quest.Alike qs' qs) (locales : List String) :
    sharedIssues qs' locales = sharedIssues qs locales := by
  simp only [sharedIssues, SharedFindings.all, SharedFindings.uniqueNames,
    SharedFindings.uniqueStages, SharedFindings.uniqueIds_congr h, SharedFindings.names_congr h,
    SharedFindings.stages_congr h, SharedFindings.references_congr h]

end QuestFlow

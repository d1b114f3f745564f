import Mathlib.Data.List.Forall2
import QuestFlow.Proofs.Repository.Sharing

/-!
# When more quests are loaded

Loading more quests has opposite effects on the rules about all quests together.  A quest that was
missing may be among those that are loaded now, so such a report can go away; what two quests share
they still share, so a clash stays.

1. **Missing quests** — `unresolved` is what is asked for in vain where certain quests are known.
   With more of them known, what is left is a filter of it (`filter_unresolved`).
2. **Clashes** — the crux: the values of a longer list stand behind those that were there before,
   and so do the carriers of each value.  A report selects the values that have enough carriers, so
   what it selected before is a sublist of what it selects now (`sublistForall₂_filter_map`).
3. **The comparison** — `repositoryGrown` has the missing quests and the three sorts of clashes.
-/

namespace QuestFlow

/-! ## Missing quests -/

/-- The quests that have to be completed first, each with the node that asks for it, in the order of
the document. -/
def Quest.required (q : Quest) : List (Int × String) :=
  q.nodes.flatMap fun n => (SharedFindings.completedQuests n).map fun id => (n.id, id)

theorem Condition.completedQuest?_eq_some_iff {c : Condition} {id : String} :
    c.completedQuest? = some id ↔ id ≠ "" ∧ c.requirement = .questCompleted (some id) := by
  rw [completedQuest?]
  split
  next id' hrequirement =>
    rw [hrequirement, Option.ite_none_left_eq_some, String.isEmpty_iff, Option.some.injEq,
      Requirement.questCompleted.injEq, Option.some.injEq]
    constructor
    · rintro ⟨hfilled, rfl⟩
      exact ⟨hfilled, rfl⟩
    · rintro ⟨hfilled, rfl⟩
      exact ⟨hfilled, rfl⟩
  next hother =>
    refine iff_of_false nofun ?_
    rintro ⟨-, hrequirement⟩
    exact hother id hrequirement

/-- A quest is asked for by a node or by one of its options. -/
theorem Quest.mem_required_iff {q : Quest} {node : Int} {id : String} :
    (node, id) ∈ q.required ↔ id ≠ "" ∧ ∃ n ∈ q.nodes, n.id = node ∧
      ∃ c, (c ∈ n.conditions ∨ ∃ o ∈ n.declaredOptions, c ∈ o.conditions) ∧
        c.requirement = .questCompleted (some id) := by
  simp only [required, SharedFindings.completedQuests, Node.allConditions, List.mem_flatMap,
    List.mem_map, List.mem_filterMap, List.mem_append, Condition.completedQuest?_eq_some_iff,
    Prod.mk.injEq]
  constructor
  · rintro ⟨n, hn, _, ⟨c, hc, hfilled, hrequirement⟩, rfl, rfl⟩
    exact ⟨hfilled, n, hn, rfl, c, hc, hrequirement⟩
  · rintro ⟨hfilled, n, hn, rfl, c, hc, hrequirement⟩
    exact ⟨n, hn, id, ⟨c, hc, hfilled, hrequirement⟩, rfl, rfl⟩

/-- The quest that a report misses. -/
def SharedProblem.missing? : SharedProblem → Option String
  | .missingQuest id => some id
  | _ => none

namespace SharedFindings

/-- The reports on what the quests ask for, where certain IDs are known. -/
def unresolved (known : List String) (quests : List Quest) : List SharedFinding :=
  quests.flatMap fun q => (q.required.filter fun (_, id) => !known.contains id).map
    fun (node, id) => ⟨.missingQuest id, some node, some q.id⟩

/-- The rule knows the IDs of the quests themselves. -/
theorem references_eq_unresolved (quests : List Quest) :
    references quests = unresolved (quests.map (·.id)) quests := by
  refine List.flatMap_congr fun q _ => ?_
  rw [Quest.required, List.filter_flatMap, List.map_flatMap]
  refine List.flatMap_congr fun n _ => ?_
  rw [List.filter_map, List.map_map]
  rfl

theorem unresolved_append (known : List String) (qs es : List Quest) :
    unresolved known (qs ++ es) = unresolved known qs ++ unresolved known es :=
  List.flatMap_append

/-- Where more IDs are known, the reports on those are left out. -/
theorem filter_unresolved (known more : List String) (quests : List Quest) :
    (unresolved known quests).filter (fun f => f.problem.missing?.all (!more.contains ·)) =
      unresolved (known ++ more) quests := by
  rw [unresolved, List.filter_flatMap]
  refine List.flatMap_congr fun q _ => ?_
  rw [List.filter_map, List.filter_filter]
  refine congrArg (List.map _) (List.filter_congr fun pair _ => ?_)
  simp [SharedProblem.missing?, Bool.and_comm]

end SharedFindings

/-! ## Clashes -/

/-- The one report on a clash is the other, with further quests. -/
inductive SharedProblem.Grows : SharedProblem → SharedProblem → Prop where
  | sharedId {id : String} {count count' : Nat} {sources sources' : List Path}
      (hcount : count ≤ count') (hsources : sources <+: sources') :
      Grows (.sharedId id count sources) (.sharedId id count' sources')
  | sharedName {name locale : String} {quests quests' : List String}
      (hquests : quests <+: quests') :
      Grows (.sharedName name locale quests) (.sharedName name locale quests')
  | sharedStage {text locale : String} {quests quests' : List String}
      (hquests : quests <+: quests') :
      Grows (.sharedStage text locale quests) (.sharedStage text locale quests')

/-- The same of the findings, which are of no quest or node in particular. -/
structure SharedFinding.Grows (f f' : SharedFinding) : Prop where
  problem : f.problem.Grows f'.problem
  node : f'.node = f.node
  quest : f'.quest = f.quest

section Lists

variable {α β γ : Type} {R : β → γ → Prop}

theorem eraseDups_prefix_append [DecidableEq α] (xs ys : List α) :
    xs.eraseDups <+: (xs ++ ys).eraseDups :=
  ⟨_, List.eraseDups_append.symm⟩

/-- A report that selects members and says something of each: of a longer list, with a weaker test,
it has a report for each that was there. -/
theorem sublistForall₂_filter_map {xs ys : List α} (hsublist : xs.Sublist ys)
    {test test' : α → Bool} (htest : ∀ x, test x = true → test' x = true)
    {f : α → β} {g : α → γ} (hrel : ∀ x, R (f x) (g x)) :
    List.SublistForall₂ R ((xs.filter test).map f) ((ys.filter test').map g) := by
  have hselected : (xs.filter test).Sublist (ys.filter test') :=
    (hsublist.filter test).trans (List.monotone_filter_right ys htest)
  refine List.sublistForall₂_iff.2 ⟨(xs.filter test).map g, ?_, hselected.map g⟩
  rw [List.forall₂_map_left_iff, List.forall₂_map_right_iff, List.forall₂_same]
  exact fun x _ => hrel x

theorem sublistForall₂_flatMap {f : α → List β} {g : α → List γ}
    (h : ∀ x, List.SublistForall₂ R (f x) (g x)) (xs : List α) :
    List.SublistForall₂ R (xs.flatMap f) (xs.flatMap g) := by
  induction xs with
  | nil => exact .nil
  | cons x xs ih =>
    obtain ⟨l, hrel, hsublist⟩ := List.sublistForall₂_iff.1 (h x)
    obtain ⟨ls, hrels, hsublists⟩ := List.sublistForall₂_iff.1 ih
    exact List.sublistForall₂_iff.2
      ⟨l ++ ls, List.rel_append hrel hrels, hsublist.append hsublists⟩

end Lists

theorem carriersOf_prefix_append (xs ys : List (String × String)) (text : String) :
    carriersOf xs text <+: carriersOf (xs ++ ys) text := by
  rw [carriersOf, carriersOf, List.filter_append, List.map_append]
  exact eraseDups_prefix_append _ _

namespace SharedFindings

/-- What is shared stays shared, and the carriers are those that were there and further ones. -/
theorem sublistForall₂_shared_append {R : SharedFinding → SharedFinding → Prop}
    (report : String × List String → SharedFinding)
    (hreport : ∀ text ids ids', ids <+: ids' → R (report (text, ids)) (report (text, ids')))
    (xs ys : List (String × String)) :
    List.SublistForall₂ R ((shared xs).map report) ((shared (xs ++ ys)).map report) := by
  rw [shared_eq, shared_eq, List.map_map, List.map_map, List.map_append]
  refine sublistForall₂_filter_map (eraseDups_prefix_append _ _).sublist (fun text hmany => ?_)
    fun text => hreport text _ _ (carriersOf_prefix_append xs ys text)
  rw [decide_eq_true_iff] at hmany ⊢
  exact Nat.lt_of_lt_of_le hmany (carriersOf_prefix_append xs ys text).length_le

/-- What more quests do to the report about all of them. -/
structure RepositoryGrown (qs es : List Quest) : Prop where
  /-- the reports on quests that are there now are gone; those of the new quests come last -/
  references_eq : references (qs ++ es) =
    (references qs).filter (fun f => f.problem.missing?.all (!(es.map (·.id)).contains ·)) ++
      unresolved ((qs ++ es).map (·.id)) es
  /-- what a quest asks for is what a condition of a node or of an option names -/
  required_iff : ∀ q ∈ qs ++ es, ∀ node id, (node, id) ∈ q.required ↔
    id ≠ "" ∧ ∃ n ∈ q.nodes, n.id = node ∧
      ∃ c, (c ∈ n.conditions ∨ ∃ o ∈ n.declaredOptions, c ∈ o.conditions) ∧
        c.requirement = .questCompleted (some id)
  /-- each shared ID is still reported, in the order in which they were -/
  ids : List.SublistForall₂ SharedFinding.Grows (uniqueIds qs) (uniqueIds (qs ++ es))
  names : ∀ locales, List.SublistForall₂ SharedFinding.Grows
    (uniqueNames qs locales) (uniqueNames (qs ++ es) locales)
  stages : ∀ locales, List.SublistForall₂ SharedFinding.Grows
    (uniqueStages qs locales) (uniqueStages (qs ++ es) locales)

/-- **More quests resolve what was missing, and hide no clash.** -/
theorem repositoryGrown (qs es : List Quest) : RepositoryGrown qs es where
  references_eq := by
    rw [references_eq_unresolved, references_eq_unresolved, unresolved_append, filter_unresolved,
      ← List.map_append]
  required_iff _ _ _ _ := Quest.mem_required_iff
  ids := by
    have hids : (qs.map (·.id)).eraseDups <+: ((qs ++ es).map (·.id)).eraseDups := by
      rw [List.map_append]
      exact eraseDups_prefix_append _ _
    have hcount : ∀ id, (qs.map (·.id)).count id ≤ ((qs ++ es).map (·.id)).count id := by
      intro id
      rw [List.map_append, List.count_append]
      exact Nat.le_add_right _ _
    have hsources : ∀ id, (qs.filter (·.id == id)).filterMap (·.source) <+:
        ((qs ++ es).filter (·.id == id)).filterMap (·.source) := by
      intro id
      rw [List.filter_append, List.filterMap_append]
      exact List.prefix_append _ _
    rw [uniqueIds_eq_map, uniqueIds_eq_map]
    refine sublistForall₂_filter_map hids.sublist (fun id hseveral => ?_)
      fun id => ⟨.sharedId (hcount id) (hsources id), rfl, rfl⟩
    rw [decide_eq_true_iff] at hseveral ⊢
    exact Nat.le_trans hseveral (hcount id)
  names := by
    refine sublistForall₂_flatMap fun locale => ?_
    have hnames : SharedFindings.names (qs ++ es) locale =
        SharedFindings.names qs locale ++ SharedFindings.names es locale := by
      rw [SharedFindings.names, List.map_append, List.filter_append]
      rfl
    rw [hnames]
    exact sublistForall₂_shared_append _ (fun _ _ _ hids => ⟨.sharedName hids, rfl, rfl⟩) _ _
  stages := by
    refine sublistForall₂_flatMap fun locale => ?_
    have hstages : SharedFindings.stages (qs ++ es) locale =
        SharedFindings.stages qs locale ++ SharedFindings.stages es locale := by
      rw [SharedFindings.stages, List.flatMap_append, List.filter_append]
      rfl
    rw [hstages]
    exact sublistForall₂_shared_append _ (fun _ _ _ hids => ⟨.sharedStage hids, rfl, rfl⟩) _ _

example : let asking : Quest := { id := "Q1", nodes := [⟨1, [⟨.null, .questCompleted (some "Q2")⟩,
      ⟨.null, .questCompleted (some "Q3")⟩], .entryPoint {}, []⟩] }
    references [asking] = [⟨.missingQuest "Q2", some 1, some "Q1"⟩,
        ⟨.missingQuest "Q3", some 1, some "Q1"⟩] ∧
      references [asking, { id := "Q2" }] = [⟨.missingQuest "Q3", some 1, some "Q1"⟩] := by
  decide

end SharedFindings
end QuestFlow

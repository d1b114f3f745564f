import Mathlib.Logic.Equiv.Basic
import QuestFlow.Proofs.Quest.Renaming
import QuestFlow.Proofs.Rule.Naming

/-!
# The rules do not mind which IDs the nodes have

A quest whose IDs have been replaced by an injective function has the same problems: in the same
order, and with the new IDs (`Quest.findings_of_renames`).  Nothing is asked of the quest; IDs may
be shared by nodes, and edges may lead nowhere.  What the rules do mind is an ID with too many
digits in a message, and so it can be that only one of two such quests has a report
(`Quest.reportsCompared`).

1. **What a finding becomes.**  `Finding.rename` replaces the ID of the node, and those IDs that the
   problem names.  A message is made from the problem, so nothing else in it changes.

2. **Rules that look at one node at a time.**  Some take a node apart by its variant.  They are
   first put in terms of what `Node.Renames` speaks of (`decisions_eq`, `conditionBranches_eq`,
   `flatNodes_eq`, `unknownSpeakers_eq`), and then each is a `flatMap` over the nodes that agrees
   node by node (`flatMap_nodes_of_renames`).

3. **Rules that ask for membership or repetition** see an ID among others exactly if its image is
   among their images; here it matters that no two IDs become one.

4. **Rules that search** run on the graph with replaced IDs, step by step as before.

5. **Reports** are made of the findings, as long as the IDs that messages name can be written; under
   other IDs, these are the images of those that were named (`Quest.names_rename_iff`).
-/

namespace QuestFlow

open Function

variable {f : Int → Int} {φ : Node → Node} {q q' : Quest}

/-! ## Findings under other IDs -/

/-- The problem with the IDs that it names replaced. -/
def Problem.rename (f : Int → Int) : Problem → Problem
  | .missingTarget label target => .missingTarget label (f target)
  | .repeatedEdge label target => .repeatedEdge label (f target)
  | p => p

/-- The finding with its node and the IDs that it names replaced. -/
def Finding.rename (f : Int → Int) (x : Finding) : Finding := ⟨x.problem.rename f, x.node.map f⟩

namespace Findings

/-- A problem that names no ID is found at the changed node as it is. -/
theorem findIf_of_renames (hφ : Node.Renames f φ) (n : Node) (wrong : Bool) {p : Problem}
    (hp : p.rename f = p) : (φ n).findIf wrong p = (n.findIf wrong p).map (Finding.rename f) := by
  cases wrong with
  | false => rfl
  | true => simp [Node.findIf, Finding.rename, hφ.id, hp]

/-- A rule that goes from node to node follows if it does so at each. -/
theorem flatMap_nodes_of_renames {g g' : Node → List Finding} {ns ns' : List Node}
    (hnodes : ns' = ns.map φ) (hsame : ∀ n, g' (φ n) = (g n).map (Finding.rename f)) :
    ns'.flatMap g' = (ns.flatMap g).map (Finding.rename f) := by
  rw [hnodes, List.flatMap_map, List.map_flatMap]
  exact List.flatMap_congr fun n _ => hsame n

/-! ## Rules that look at one node at a time -/

/-- The finding about the list of an option, if it is one and has no edge. -/
def deadOptionIn (n : Node) : EdgeField → List Finding
  | ⟨.option number, targets⟩ => n.findIf targets.isEmpty (.deadOption number)
  | _ => []

theorem deadOptions_eq (n : Node) (number : Nat) (os : List DialogOption) :
    deadOptions n number os = (optionFieldsFrom number os).flatMap (deadOptionIn n) := by
  induction os generalizing number with
  | nil => rfl
  | cons o os ih => rw [deadOptions, optionFieldsFrom, List.flatMap_cons, ih]; rfl

/-- Whether there is an edge in one of the lists. -/
def hasEdge (fields : List EdgeField) : Bool := fields.any fun x => !x.targets.isEmpty

theorem hasEdge_filledField (label : EdgeLabel) (ts : List Int) :
    hasEdge (filledField label ts) = !ts.isEmpty := by
  cases ts <;> rfl

theorem hasEdge_rename (fields : List EdgeField) :
    hasEdge (fields.map (EdgeField.rename f)) = hasEdge fields := by
  simp [hasEdge, EdgeField.rename, comp_def]

/-- What the rule about decisions finds at a node. -/
def decisionsAt (n : Node) : List Finding :=
  if n.variant = .decision then
    n.findIf (hasEdge n.strayFields) (.decisionEdges n.nodeType) ++
      n.legalFields.flatMap (deadOptionIn n)
  else []

theorem decisions_eq (q : Quest) : decisions q = q.nodes.flatMap decisionsAt := by
  refine List.flatMap_congr fun n _ => ?_
  cases hbody : n.body with
  | decision type speech options strayNext =>
    simp only [decisionsAt, Node.variant, Node.strayFields, Node.nodeType, Node.legalFields, hbody,
      Body.variant, Body.strayFields, Body.nodeType, Body.legalFields, hasEdge_filledField,
      deadOptions_eq, optionFields, if_true]
  | _ => simp [decisionsAt, Node.variant, hbody, Body.variant]

/-- What the rule about condition branches finds at a node. -/
def conditionBranchesAt (n : Node) : List Finding :=
  if n.variant = .conditionBranch then
    n.findIf (hasEdge n.strayFields) .branchEdges ++
      n.findIf n.conditions.isEmpty .branchUnconditional ++
      n.findIf (!hasEdge n.legalFields) .deadBranch
  else []

theorem conditionBranches_eq (q : Quest) :
    conditionBranches q = q.nodes.flatMap conditionBranchesAt := by
  refine List.flatMap_congr fun n _ => ?_
  cases hbody : n.body with
  | conditionBranch required ifTrue ifFalse strayNext =>
    have hdead : hasEdge [⟨.ifTrue, ifTrue⟩, ⟨.ifFalse, ifFalse⟩] =
        !(ifTrue.isEmpty && ifFalse.isEmpty) := by
      simp [hasEdge]
    simp only [conditionBranchesAt, Node.variant, Node.strayFields, Node.legalFields, hbody,
      Body.variant, Body.strayFields, Body.legalFields, hasEdge_filledField, hdead, Bool.not_not,
      if_true]
  | _ => simp [conditionBranchesAt, Node.variant, hbody, Body.variant]

/-- What the rule about flat nodes finds at a node.  Of the variants that are not flat, two report
their stray lists by a rule of their own and the third has none. -/
def flatNodesAt (n : Node) : List Finding :=
  if n.variant = .decision ∨ n.variant = .conditionBranch then []
  else n.strayFields.map fun x => ⟨.strayEdges n.nodeType x.label, some n.id⟩

theorem flatNodes_eq (q : Quest) : flatNodes q = q.nodes.flatMap flatNodesAt := by
  refine List.flatMap_congr fun n _ => ?_
  cases hbody : n.body <;>
    simp [flatNodesAt, Node.variant, Node.strayFields, hbody, Body.variant, Body.flatEdges?,
      Body.strayFields]

/-- What a node says wrongly, from the IDs of those who talk. -/
def unknownVoices (catalog : Catalog) (player : String) (n : Node) : List Finding :=
  let unknown (id : String) : Bool := !catalog.knows .character id
  (match n.voices? with
    | some (partner, speaker) =>
      n.findIf (partner != "" && unknown partner) (.unknownPartner partner) ++
        n.findIf (speaker != "" && speaker != player && unknown speaker) (.unknownSpeaker speaker)
    | none => []) ++
    n.messageSpeakers.flatMap fun speaker =>
      n.findIf (speaker != player && unknown speaker) (.unknownMessageSpeaker speaker)

theorem unknownSpeakers_eq (catalog : Catalog) (player : String) (n : Node) :
    unknownSpeakers catalog player n = unknownVoices catalog player n := by
  rw [unknownSpeakers, unknownVoices, Node.voices?, Node.messageSpeakers, List.flatMap_map]
  cases n.body.speech? <;> rfl

section Local

variable (hφ : Node.Renames f φ) (hnodes : q'.nodes = q.nodes.map φ)

include hφ

theorem deadOptionIn_of_renames (n : Node) (x : EdgeField) :
    deadOptionIn (φ n) (x.rename f) = (deadOptionIn n x).map (Finding.rename f) := by
  obtain ⟨label, targets⟩ := x
  cases label with
  | option number =>
    have hempty : (targets.map f).isEmpty = targets.isEmpty := List.isEmpty_map
    rw [EdgeField.rename, deadOptionIn, deadOptionIn, hempty]
    exact findIf_of_renames hφ n _ (by rfl)
  | _ => rfl

theorem unknownVoices_of_renames (catalog : Catalog) (player : String) (n : Node) :
    unknownVoices catalog player (φ n) =
      (unknownVoices catalog player n).map (Finding.rename f) := by
  rw [unknownVoices, unknownVoices, hφ.voices, hφ.messageSpeakers, List.map_append,
    List.map_flatMap]
  congr 1
  · cases n.voices? with
    | none => rfl
    | some pair =>
      rw [List.map_append]
      exact congrArg₂ (· ++ ·) (findIf_of_renames hφ n _ (by rfl))
        (findIf_of_renames hφ n _ (by rfl))
  · exact List.flatMap_congr fun speaker _ => findIf_of_renames hφ n _ (by rfl)

include hnodes

theorem endings_of_renames : endings q' = (endings q).map (Finding.rename f) := by
  refine flatMap_nodes_of_renames hnodes fun n => ?_
  rw [hφ.isActions, hφ.isTerminal, hφ.outgoing, hφ.endings, List.isEmpty_map]
  split
  · simp only [List.map_append]
    congr 2 <;> exact findIf_of_renames hφ n _ (by rfl)
  · rfl

theorem decisions_of_renames : decisions q' = (decisions q).map (Finding.rename f) := by
  rw [decisions_eq, decisions_eq]
  refine flatMap_nodes_of_renames hnodes fun n => ?_
  rw [decisionsAt, decisionsAt, hφ.variant, hφ.strayFields, hφ.nodeType, hφ.legalFields,
    hasEdge_rename, List.flatMap_map]
  split
  · rw [List.map_append, List.map_flatMap]
    refine congrArg₂ (· ++ ·) (findIf_of_renames hφ n _ (by rfl)) ?_
    exact List.flatMap_congr fun x _ => deadOptionIn_of_renames hφ n x
  · rfl

theorem conditionBranches_of_renames :
    conditionBranches q' = (conditionBranches q).map (Finding.rename f) := by
  rw [conditionBranches_eq, conditionBranches_eq]
  refine flatMap_nodes_of_renames hnodes fun n => ?_
  rw [conditionBranchesAt, conditionBranchesAt, hφ.variant, hφ.strayFields, hφ.conditions,
    hφ.legalFields, hasEdge_rename, hasEdge_rename]
  split
  · simp only [List.map_append]
    congr 2 <;> exact findIf_of_renames hφ n _ (by rfl)
  · rfl

theorem flatNodes_of_renames : flatNodes q' = (flatNodes q).map (Finding.rename f) := by
  rw [flatNodes_eq, flatNodes_eq]
  refine flatMap_nodes_of_renames hnodes fun n => ?_
  rw [flatNodesAt, flatNodesAt, hφ.variant, hφ.strayFields, hφ.nodeType, hφ.id]
  split
  · rfl
  · rw [List.map_map, List.map_map]
    rfl

theorem references_of_renames (catalog : Catalog) (player : String) :
    references catalog player q' = (references catalog player q).map (Finding.rename f) := by
  refine flatMap_nodes_of_renames hnodes fun n => ?_
  have hmentions : mentions (φ n) = mentions n := by
    rw [mentions, mentions, hφ.allConditions, hφ.actions]
  rw [unknownSpeakers_eq, unknownSpeakers_eq, unknownVoices_of_renames hφ, hmentions,
    unknownReferences, unknownReferences, List.map_append, List.map_flatMap]
  refine congrArg (_ ++ ·) (List.flatMap_congr fun r _ => ?_)
  exact findIf_of_renames hφ n _ (by rfl)

theorem entryPoint_of_renames : entryPoint q' = (entryPoint q).map (Finding.rename f) := by
  rw [entryPoint, entryPoint, Quest.entryPoints_of_renames hφ hnodes, List.isEmpty_map]
  split <;> rfl

end Local

/-! ## Rules that ask for membership or repetition -/

/-- The same members are flagged. -/
theorem repeats_map (hf : Injective f) (seen xs : List Int) :
    repeats (seen.map f) (xs.map f) =
      (repeats seen xs).map fun (x, again) => (f x, again) := by
  induction xs generalizing seen with
  | nil => rfl
  | cons x xs ih =>
    have hrest := ih (x :: seen)
    rw [List.map_cons] at hrest
    rw [List.map_cons, repeats, repeats, List.map_cons, hrest]
    simp only [List.mem_map_of_injective hf]

theorem targetProblems_rename (hf : Injective f) (known : List Int) (id : Int) (label : EdgeLabel)
    (target : Int) (again : Bool) :
    targetProblems (known.map f) (f id) label (f target) again =
      (targetProblems known id label target again).map (Problem.rename f) := by
  simp only [targetProblems, List.mem_map_of_injective hf, hf.eq_iff, List.map_append,
    apply_ite (List.map (Problem.rename f)), List.map_cons, List.map_nil, Problem.rename]

/-- An ID is among the targets exactly if its image is among their images. -/
theorem contains_map (hf : Injective f) (xs : List Int) (x : Int) :
    (xs.map f).contains (f x) = xs.contains x := by
  rw [Bool.eq_iff_iff, List.contains_iff_mem, List.contains_iff_mem, List.mem_map_of_injective hf]

section Structural

variable (hf : Injective f) (hφ : Node.Renames f φ) (hnodes : q'.nodes = q.nodes.map φ)

include hf hφ hnodes

theorem uniqueIds_of_renames : uniqueIds q' = (uniqueIds q).map (Finding.rename f) := by
  have hrepeats := repeats_map hf [] q.nodeIds
  rw [List.map_nil] at hrepeats
  rw [uniqueIds, uniqueIds, Quest.nodeIds_of_renames hφ hnodes, hrepeats, List.filterMap_map,
    List.map_filterMap]
  refine List.filterMap_congr fun pair _ => ?_
  obtain ⟨id, again⟩ := pair
  cases again <;> rfl

theorem edges_of_renames : edges q' = (edges q).map (Finding.rename f) := by
  refine flatMap_nodes_of_renames hnodes fun n => ?_
  rw [hφ.declaredFields, List.flatMap_map, List.map_flatMap]
  refine List.flatMap_congr fun x _ => ?_
  have hrepeats := repeats_map hf [] x.targets
  rw [List.map_nil] at hrepeats
  rw [EdgeField.rename, hrepeats, List.flatMap_map, List.map_flatMap]
  refine List.flatMap_congr fun pair _ => ?_
  simp only [Quest.nodeIds_of_renames hφ hnodes, hφ.id, targetProblems_rename hf, List.map_map]
  rfl

theorem incoming_of_renames : incoming q' = (incoming q).map (Finding.rename f) := by
  have hled : q'.nodes.flatMap (·.declaredTargets) =
      (q.nodes.flatMap (·.declaredTargets)).map f := by
    rw [hnodes, List.flatMap_map, List.map_flatMap]
    exact List.flatMap_congr fun n _ => hφ.declaredTargets n
  refine flatMap_nodes_of_renames hnodes fun n => ?_
  rw [hled, hφ.isEntryPoint, hφ.id, contains_map hf]
  exact findIf_of_renames hφ n _ (by rfl)

theorem referenced_of_renames : referenced q' = (referenced q).map (Finding.rename f) := by
  refine flatMap_nodes_of_renames hnodes fun n => ?_
  rw [Quest.graph_of_renames hf hφ hnodes, Adjacency.targets_rename, hφ.isEntryPoint, hφ.id,
    contains_map hf]
  exact findIf_of_renames hφ n _ (by rfl)

/-! ## Rules that search -/

theorem acyclic_of_renames : acyclic q' = (acyclic q).map (Finding.rename f) := by
  rw [acyclic, acyclic, Quest.graph_of_renames hf hφ hnodes, Quest.nodeIds_of_renames hφ hnodes,
    Adjacency.hasCycle_rename hf]
  split <;> rfl

theorem journalAtStart_of_renames :
    journalAtStart q' = (journalAtStart q).map (Finding.rename f) := by
  refine flatMap_nodes_of_renames (Quest.entryPoints_of_renames hφ hnodes) fun entry => ?_
  rw [Quest.graph_of_renames hf hφ hnodes, hφ.outgoing, hφ.id,
    Adjacency.nearest?_rename hf (Quest.node?_of_renames hf hφ hnodes) hφ.isActions]
  cases q.graph.nearest? q.node? (·.isActions) entry.outgoing with
  | none => rfl
  | some first =>
    simp only [Option.map_some, hφ.writesJournal, hφ.describesStage, List.map_append]
    exact congrArg₂ (· ++ ·) (findIf_of_renames hφ first _ (by rfl))
      (findIf_of_renames hφ first _ (by rfl))

theorem journalAtEnd_of_renames : journalAtEnd q' = (journalAtEnd q).map (Finding.rename f) := by
  refine flatMap_nodes_of_renames hnodes fun n => ?_
  -- the search goes backward, so it runs on the edges turned around
  have hbefore := Adjacency.leadingTo_rename (g := q.graph.predecessors) hf
    (Quest.node?_of_renames hf hφ hnodes) hφ.isActions n (hφ.id n)
  rw [Quest.graph_of_renames hf hφ hnodes, Adjacency.predecessors_rename hf, hbefore, hφ.isTerminal,
    List.any_map]
  simp only [comp_def, hφ.writesJournal]
  exact findIf_of_renames hφ n _ (by rfl)

end Structural
end Findings

/-! ## All rules -/

/-- Each rule finds the same under other IDs. -/
theorem Rule.findings_of_renames (hf : Injective f) (hφ : Node.Renames f φ)
    (hnodes : q'.nodes = q.nodes.map φ) (context : RuleContext) (rule : Rule) :
    rule.findings context q' = (rule.findings context q).map (Finding.rename f) := by
  cases rule with
  | uniqueIds => exact Findings.uniqueIds_of_renames hf hφ hnodes
  | edges => exact Findings.edges_of_renames hf hφ hnodes
  | incoming => exact Findings.incoming_of_renames hf hφ hnodes
  | entryPoint => exact Findings.entryPoint_of_renames hφ hnodes
  | endings => exact Findings.endings_of_renames hφ hnodes
  | decisions => exact Findings.decisions_of_renames hφ hnodes
  | conditionBranches => exact Findings.conditionBranches_of_renames hφ hnodes
  | flatNodes => exact Findings.flatNodes_of_renames hφ hnodes
  | acyclic => exact Findings.acyclic_of_renames hf hφ hnodes
  | references => exact Findings.references_of_renames hφ hnodes _ _
  | journalAtStart => exact Findings.journalAtStart_of_renames hf hφ hnodes
  | journalAtEnd => exact Findings.journalAtEnd_of_renames hf hφ hnodes
  | referenced => exact Findings.referenced_of_renames hf hφ hnodes

theorem Quest.findings_of_renames (hf : Injective f) (hφ : Node.Renames f φ)
    (hnodes : q'.nodes = q.nodes.map φ) (context : RuleContext) :
    q'.findings context = (q.findings context).map (Finding.rename f) := by
  rw [findings, findings, List.map_flatMap]
  exact List.flatMap_congr fun rule _ => rule.findings_of_renames hf hφ hnodes context

/-! ## Reports -/

/-- What is promised about a quest and the same quest under other IDs: both have a report, and the
issues in them are about the same findings, each at the image of its node and with the images of the
IDs that its message names. -/
def Quest.ReportsAlike (f : Int → Int) (context : RuleContext) (q : Quest) : Prop :=
  q.writtenIssues context = .ok ((q.findings context).map (·.issue)) ∧
    (q.rename f).writtenIssues context =
      .ok ((q.findings context).map fun x => (x.rename f).issue)

/-- A message with replaced IDs names the images of those that it has named. -/
theorem Problem.target?_rename (p : Problem) : (p.rename f).target? = p.target?.map f := by
  cases p <;> rfl

/-- **The named IDs** are the images of those that were named before. -/
theorem Quest.names_rename_iff (hf : Injective f) {id' : Int} :
    (q.rename f).Names id' ↔ ∃ id, q.Names id ∧ f id = id' := by
  have hedges : Findings.edges (q.rename f) = (Findings.edges q).map (Finding.rename f) :=
    Findings.edges_of_renames hf (Node.renames_rename f) rfl
  simp only [names_iff, hedges, List.mem_map, exists_exists_and_eq_and, Finding.rename,
    Problem.target?_rename, Option.map_eq_some_iff]
  constructor
  · rintro ⟨x, hx, id, hid, himage⟩
    exact ⟨id, ⟨x, hx, hid⟩, himage⟩
  · rintro ⟨id, ⟨x, hx, hid⟩, himage⟩
    exact ⟨x, hx, id, hid, himage⟩

/-- Both quests have their reports just if both are reportable. -/
theorem Quest.reportsAlike_iff (hf : Injective f) (context : RuleContext) (q : Quest) :
    q.ReportsAlike f context ↔ q.Reportable context ∧ (q.rename f).Reportable context := by
  have hissues : (q.rename f).issues context =
      (q.findings context).map fun x => (x.rename f).issue := by
    rw [issues, findings_of_renames hf (Node.renames_rename f) rfl context, List.map_map]
    rfl
  rw [ReportsAlike, writtenIssues_eq_ok_iff, writtenIssues_eq_ok_iff]
  exact and_congr (and_iff_left rfl) (and_iff_left hissues)

/-- How the reports of a quest and of the same quest under other IDs compare. -/
structure Quest.ReportsCompared (f : Int → Int) (context : RuleContext) (q : Quest) : Prop where
  /-- the same is found in the same order, whatever the IDs are -/
  findings : (q.rename f).findings context = (q.findings context).map (Finding.rename f)
  /-- it is reported alike just if each ID that is named can be written, and its image as well -/
  alike_iff : q.ReportsAlike f context ↔ ∀ id, q.Names id →
    IntegerText.isWritable id = true ∧ IntegerText.isWritable (f id) = true
  /-- otherwise one of the two has no report; under the other IDs, the first image that cannot be
  written ends it -/
  breaksOff_iff : ∀ e, (q.rename f).writtenIssues context = .error e ↔ ∃ before x after id,
    q.findings context = before ++ x :: after ∧ (∀ y ∈ before, (y.rename f).Writable) ∧
      x.problem.target? = some id ∧ f id = e.number ∧ IntegerText.isWritable e.number = false

/-- **No rule minds which IDs the nodes have**, as long as those in messages can be written.  Under
other IDs, one for each, a quest has the same problems in the same order, and they are reported
alike. -/
theorem Quest.reportsCompared (hf : Injective f) (context : RuleContext) (q : Quest) :
    q.ReportsCompared f context where
  findings := findings_of_renames hf (Node.renames_rename f) rfl context
  alike_iff := by
    rw [reportsAlike_iff hf, reportable_iff, reportable_iff]
    simp only [names_rename_iff hf, forall_exists_index, and_imp, forall_apply_eq_imp_iff₂]
    exact ⟨fun h id hid => ⟨h.1 id hid, h.2 id hid⟩,
      fun h => ⟨fun id hid => (h id hid).1, fun id hid => (h id hid).2⟩⟩
  breaksOff_iff := by
    intro e
    have hfindings : (q.rename f).findings context = (q.findings context).map (Finding.rename f) :=
      findings_of_renames hf (Node.renames_rename f) rfl context
    rw [writtenIssues, hfindings, Finding.writtenIssues_eq_error_iff]
    constructor
    · rintro ⟨before', y, after', hsplit, hbefore, hy, hlong⟩
      obtain ⟨before, tail, hall, rfl, htail⟩ := List.map_eq_append_iff.1 hsplit
      obtain ⟨x, after, rfl, rfl, rfl⟩ := List.map_eq_cons_iff.1 htail
      rw [Finding.rename, Problem.target?_rename, Option.map_eq_some_iff] at hy
      obtain ⟨id, hid, himage⟩ := hy
      exact ⟨before, x, after, id, hall, List.forall_mem_map.1 hbefore, hid, himage, hlong⟩
    · rintro ⟨before, x, after, id, hall, hbefore, hid, himage, hlong⟩
      refine ⟨before.map (Finding.rename f), x.rename f, after.map (Finding.rename f), ?_,
        List.forall_mem_map.2 hbefore, ?_, hlong⟩
      · rw [hall, List.map_append, List.map_cons]
      · rw [Finding.rename, Problem.target?_rename, hid, Option.map_some, himage]

/-- A quest in which two nodes share an ID, one edge leads nowhere, one stands where it must not,
and the flow turns in a circle without ever writing into the journal. -/
def knot : Quest where
  id := "Knot"
  nodes := [
    ⟨-1, [], .entryPoint { next := [0, 7, 7], strayIfTrue := some [0] }, []⟩,
    ⟨0, [], .actions { next := [-1] } [], []⟩,
    ⟨0, [], .actions {} [.ofValue (.text "CompleteQuest")], []⟩,
    ⟨3, [], .decision .decision {} [{ next := [0] }, {}] [], []⟩]

/-- IDs in reverse order, spread and moved far up. -/
def mirrored (id : Int) : Int := 10 ^ 30 - 7 * id

/-- The knot is as tangled under any other IDs. -/
theorem reportsCompared_knot :
    Injective mirrored ∧ knot.ReportsCompared mirrored {} ∧ knot.ReportsAlike mirrored {} := by
  have hf : Injective mirrored := by
    intro a b hab
    simp only [mirrored] at hab
    omega
  have hwritable : ∀ q ∈ [knot, knot.rename mirrored], q.Reportable {} := by
    intro q hq
    have hall : ([knot, knot.rename mirrored].all fun q =>
        (Findings.edges q).all fun x => decide x.Writable) = true := by
      decide +kernel
    have hedges := List.all_eq_true.1 (List.all_eq_true.1 hall q hq)
    exact Quest.reportable_iff.2
      (Findings.writable_edges_iff.1 fun x hx => of_decide_eq_true (hedges x hx))
  exact ⟨hf, Quest.reportsCompared hf {} knot, (Quest.reportsAlike_iff hf {} knot).2
    ⟨hwritable _ List.mem_cons_self, hwritable _ (List.mem_cons_of_mem _ List.mem_cons_self)⟩⟩

/-- But if the ID that leads nowhere is replaced by one with too many digits, there is no report
any more. -/
theorem not_reportsAlike_knot : ¬ ∀ (f : Int → Int) (context : RuleContext) (q : Quest),
    Injective f → q.ReportsAlike f context := by
  intro hall
  have hf : Injective (Equiv.swap 7 IntegerText.leastUnwritable) := (Equiv.swap 7 _).injective
  have hmissing : Finding.mk (.missingTarget .next 7) (some (-1)) ∈ Findings.edges knot := by
    decide +kernel
  have hnames : knot.Names 7 := Quest.names_iff.2 ⟨_, hmissing, rfl⟩
  have hreportable := ((Quest.reportsAlike_iff hf {} knot).1 (hall _ {} knot hf)).2
  have himage := Quest.reportable_iff.1 hreportable _
    ((Quest.names_rename_iff hf).2 ⟨7, hnames, Equiv.swap_apply_left 7 _⟩)
  cases himage.symm.trans IntegerText.isWritable_leastUnwritable

end QuestFlow

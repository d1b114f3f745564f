import QuestFlow.Proofs.Graph.Renaming
import QuestFlow.Proofs.Quest.Graph

/-!
# Quests under other node IDs

`Quest.rename` replaces the ID of each node and the target of each edge, in legal and stray lists
alike, and leaves everything else.  `Node.Renames` says what the rules see of such a change: a node
under the image of its ID, with the images of its targets under the same labels, and otherwise
with the same type, conditions, actions and speakers.

The second is the notion that the rules are proved against, because more changes than `rename`
satisfy it.  One that only touches what no rule reads satisfies it with the identity for IDs.

The graph, and looking a node up by its ID, follow such a change (`graph_of_renames`,
`node?_of_renames`), whether or not IDs are distinct and edges lead to nodes.
-/

namespace QuestFlow

open Function

/-! ## Replacing IDs -/

/-- The edge list with every target replaced. -/
def EdgeField.rename (f : Int → Int) (x : EdgeField) : EdgeField :=
  { x with targets := x.targets.map f }

/-- The option with every target replaced. -/
def DialogOption.rename (f : Int → Int) (o : DialogOption) : DialogOption :=
  { o with next := o.next.map f }

/-- Flat edges with every target replaced, the stray ones among them. -/
def FlatEdges.rename (f : Int → Int) (e : FlatEdges) : FlatEdges where
  next := e.next.map f
  strayIfTrue := e.strayIfTrue.map (List.map f)
  strayIfFalse := e.strayIfFalse.map (List.map f)
  strayOptions := e.strayOptions.map (List.map (DialogOption.rename f))

/-- The body with every target replaced. -/
def Body.rename (f : Int → Int) : Body → Body
  | .entryPoint e => .entryPoint (e.rename f)
  | .actions e list => .actions (e.rename f) list
  | .dialog e speech messages => .dialog (e.rename f) speech messages
  | .decision type speech options strayNext =>
    .decision type speech (options.map (DialogOption.rename f)) (strayNext.map f)
  | .conditionBranch required ifTrue ifFalse strayNext =>
    .conditionBranch required (ifTrue.map f) (ifFalse.map f) (strayNext.map f)
  | .questProgress e progressors => .questProgress (e.rename f) progressors
  | .unmodelled type next ifTrue ifFalse options =>
    .unmodelled type (next.map f) (ifTrue.map f) (ifFalse.map f)
      (options.map (DialogOption.rename f))

/-- The node with its own ID and every target replaced. -/
def Node.rename (f : Int → Int) (n : Node) : Node :=
  { n with id := f n.id, body := n.body.rename f }

/-- The quest with every node ID and every target replaced. -/
def Quest.rename (f : Int → Int) (q : Quest) : Quest :=
  { q with nodes := q.nodes.map (Node.rename f) }

/-! ## What the rules see of it -/

/-- The IDs of the people who talk: the partner, and who speaks first. -/
def Node.voices? (n : Node) : Option (String × String) :=
  n.body.speech?.map fun s => (s.partner, s.speaker)

/-- The IDs of those who say the messages. -/
def Node.messageSpeakers (n : Node) : List String := n.body.messages.map (·.speaker)

/-- All that a rule can tell of the change `φ` is that it puts `f id` in the place of each `id`. -/
structure Node.Renames (f : Int → Int) (φ : Node → Node) : Prop where
  id : ∀ n, (φ n).id = f n.id
  variant : ∀ n, (φ n).variant = n.variant
  nodeType : ∀ n, (φ n).nodeType = n.nodeType
  legalFields : ∀ n, (φ n).legalFields = n.legalFields.map (EdgeField.rename f)
  strayFields : ∀ n, (φ n).strayFields = n.strayFields.map (EdgeField.rename f)
  conditions : ∀ n, (φ n).conditions = n.conditions
  allConditions : ∀ n, (φ n).allConditions = n.allConditions
  actions : ∀ n, (φ n).actions = n.actions
  voices : ∀ n, (φ n).voices? = n.voices?
  messageSpeakers : ∀ n, (φ n).messageSpeakers = n.messageSpeakers

theorem flatMap_targets_rename (f : Int → Int) (xs : List EdgeField) :
    (xs.map (EdgeField.rename f)).flatMap (·.targets) = (xs.flatMap (·.targets)).map f := by
  rw [List.flatMap_map, List.map_flatMap]
  rfl

namespace Node.Renames

variable {f : Int → Int} {φ : Node → Node}

theorem outgoing (hφ : Renames f φ) (n : Node) : (φ n).outgoing = n.outgoing.map f := by
  rw [Node.outgoing, Node.outgoing, hφ.legalFields, flatMap_targets_rename]

theorem declaredFields (hφ : Renames f φ) (n : Node) :
    (φ n).declaredFields = n.declaredFields.map (EdgeField.rename f) := by
  rw [Node.declaredFields, Node.declaredFields, hφ.legalFields, hφ.strayFields, List.map_append]

theorem declaredTargets (hφ : Renames f φ) (n : Node) :
    (φ n).declaredTargets = n.declaredTargets.map f := by
  rw [Node.declaredTargets, Node.declaredTargets, hφ.declaredFields, flatMap_targets_rename]

theorem isEntryPoint (hφ : Renames f φ) (n : Node) : (φ n).isEntryPoint = n.isEntryPoint := by
  rw [Node.isEntryPoint, Node.isEntryPoint, hφ.variant]

theorem isActions (hφ : Renames f φ) (n : Node) : (φ n).isActions = n.isActions := by
  rw [Node.isActions, Node.isActions, hφ.variant]

theorem endings (hφ : Renames f φ) (n : Node) : (φ n).endings = n.endings := by
  rw [Node.endings, Node.endings, hφ.actions]

theorem isTerminal (hφ : Renames f φ) (n : Node) : (φ n).isTerminal = n.isTerminal := by
  rw [Node.isTerminal, Node.isTerminal, hφ.endings]

theorem writesJournal (hφ : Renames f φ) (n : Node) : (φ n).writesJournal = n.writesJournal := by
  rw [Node.writesJournal, Node.writesJournal, hφ.actions]

theorem describesStage (hφ : Renames f φ) (n : Node) :
    (φ n).describesStage = n.describesStage := by
  rw [Node.describesStage, Node.describesStage, hφ.actions]

end Node.Renames

/-! ## Replacing IDs is such a change -/

section Fields

variable {f : Int → Int}

theorem filledField_map (label : EdgeLabel) (ts : List Int) :
    filledField label (ts.map f) = (filledField label ts).map (EdgeField.rename f) := by
  cases ts <;> rfl

theorem optionFieldsFrom_map {ψ : DialogOption → DialogOption}
    (hψ : ∀ o, (ψ o).next = o.next.map f) (number : Nat) (os : List DialogOption) :
    optionFieldsFrom number (os.map ψ) =
      (optionFieldsFrom number os).map (EdgeField.rename f) := by
  induction os generalizing number with
  | nil => rfl
  | cons o os ih =>
    rw [List.map_cons, optionFieldsFrom, optionFieldsFrom, List.map_cons, ih, hψ]
    rfl

theorem optionFields_map {ψ : DialogOption → DialogOption} (hψ : ∀ o, (ψ o).next = o.next.map f)
    (os : List DialogOption) :
    optionFields (os.map ψ) = (optionFields os).map (EdgeField.rename f) :=
  optionFieldsFrom_map hψ 1 os

/-- The stray lists of flat edges follow their three parts. -/
theorem FlatEdges.strayFields_map {e e' : FlatEdges} {ψ : DialogOption → DialogOption}
    (hψ : ∀ o, (ψ o).next = o.next.map f)
    (htrue : e'.strayIfTrue = e.strayIfTrue.map (List.map f))
    (hfalse : e'.strayIfFalse = e.strayIfFalse.map (List.map f))
    (hoptions : e'.strayOptions = e.strayOptions.map (List.map ψ)) :
    e'.strayFields = e.strayFields.map (EdgeField.rename f) := by
  have hfilled : ∀ (label : EdgeLabel) (ts : Option (List Int)),
      filledField label ((ts.map (List.map f)).getD []) =
        (filledField label (ts.getD [])).map (EdgeField.rename f) := by
    intro label ts
    cases ts with
    | none => rfl
    | some ts => exact filledField_map label ts
  have hstray : optionFields (e'.strayOptions.getD []) =
      (optionFields (e.strayOptions.getD [])).map (EdgeField.rename f) := by
    rw [hoptions]
    cases e.strayOptions with
    | none => rfl
    | some os => exact optionFields_map hψ os
  have hempty : ((fun x : EdgeField => !x.targets.isEmpty) ∘ EdgeField.rename f) =
      fun x => !x.targets.isEmpty := by
    funext x
    simp [EdgeField.rename]
  rw [strayFields, strayFields, htrue, hfalse, hfilled, hfilled, hstray, List.filter_map, hempty,
    List.map_append, List.map_append]

theorem FlatEdges.strayFields_rename (e : FlatEdges) :
    (e.rename f).strayFields = e.strayFields.map (EdgeField.rename f) :=
  strayFields_map (fun _ => rfl) rfl rfl rfl

theorem Body.legalFields_rename (b : Body) :
    (b.rename f).legalFields = b.legalFields.map (EdgeField.rename f) := by
  have hoptions : ∀ os : List DialogOption, optionFields (os.map (DialogOption.rename f)) =
      (optionFields os).map (EdgeField.rename f) := optionFields_map fun _ => rfl
  cases b with
  | decision => exact hoptions _
  | unmodelled =>
    simp only [rename, legalFields, filledField_map, hoptions, List.map_cons, List.map_append]
    rfl
  | _ => rfl

theorem Body.strayFields_rename (b : Body) :
    (b.rename f).strayFields = b.strayFields.map (EdgeField.rename f) := by
  cases b with
  | decision => exact filledField_map _ _
  | conditionBranch => exact filledField_map _ _
  | unmodelled => rfl
  | _ => exact FlatEdges.strayFields_rename _

/-- The options are the same but for their targets. -/
theorem Body.options_rename (b : Body) :
    (b.rename f).options = b.options.map (DialogOption.rename f) ∧
      (b.rename f).strayOptions = b.strayOptions.map (DialogOption.rename f) := by
  have hstray : ∀ e : FlatEdges, (e.rename f).strayOptions.getD [] =
      (e.strayOptions.getD []).map (DialogOption.rename f) := by
    intro e
    rw [FlatEdges.rename]
    cases e.strayOptions <;> rfl
  cases b with
  | decision | unmodelled | conditionBranch => exact ⟨rfl, rfl⟩
  | _ => exact ⟨rfl, hstray _⟩

/-- A node whose options are changed, but not in their conditions, has the same conditions. -/
theorem Node.allConditions_eq_of_options {n n' : Node} {ψ : DialogOption → DialogOption}
    (hoptions : n'.body.options = n.body.options.map ψ ∧
      n'.body.strayOptions = n.body.strayOptions.map ψ)
    (hψ : ∀ o, (ψ o).conditions = o.conditions) (hconditions : n'.conditions = n.conditions) :
    n'.allConditions = n.allConditions := by
  have hdeclared : n'.declaredOptions = n.declaredOptions.map ψ := by
    rw [declaredOptions, declaredOptions, options, options, strayOptions, strayOptions, hoptions.1,
      hoptions.2, List.map_append]
  rw [allConditions, allConditions, hconditions, hdeclared, List.flatMap_map]
  simp only [hψ]

theorem Node.allConditions_rename (n : Node) : (n.rename f).allConditions = n.allConditions :=
  Node.allConditions_eq_of_options n.body.options_rename (fun _ => rfl) rfl

/-- **Replacing IDs replaces IDs**, as far as the rules see. -/
theorem Node.renames_rename (f : Int → Int) : Node.Renames f (Node.rename f) where
  id _ := rfl
  variant n := by obtain ⟨_, _, b, _⟩ := n; cases b <;> rfl
  nodeType n := by obtain ⟨_, _, b, _⟩ := n; cases b <;> rfl
  legalFields n := n.body.legalFields_rename
  strayFields n := n.body.strayFields_rename
  conditions _ := rfl
  allConditions := allConditions_rename
  actions n := by obtain ⟨_, _, b, _⟩ := n; cases b <;> rfl
  voices n := by obtain ⟨_, _, b, _⟩ := n; cases b <;> rfl
  messageSpeakers n := by obtain ⟨_, _, b, _⟩ := n; cases b <;> rfl

end Fields

/-! ## The graph -/

namespace Quest

variable {f : Int → Int} {φ : Node → Node} {q q' : Quest}

theorem nodeIds_of_renames (hφ : Node.Renames f φ) (hnodes : q'.nodes = q.nodes.map φ) :
    q'.nodeIds = q.nodeIds.map f := by
  rw [nodeIds, nodeIds, hnodes, List.map_map, List.map_map]
  exact List.map_congr_left fun n _ => hφ.id n

theorem entryPoints_of_renames (hφ : Node.Renames f φ) (hnodes : q'.nodes = q.nodes.map φ) :
    q'.entryPoints = q.entryPoints.map φ := by
  rw [entryPoints, entryPoints, hnodes, List.filter_map]
  exact congrArg (List.map φ) (List.filter_congr fun n _ => hφ.isEntryPoint n)

/-- The graph is the same table under other IDs. -/
theorem graph_of_renames (hf : Injective f) (hφ : Node.Renames f φ)
    (hnodes : q'.nodes = q.nodes.map φ) : q'.graph = q.graph.rename f := by
  have hrows : (q'.nodes.map fun n => (n.id, n.outgoing)) =
      Groups.image f f (q.nodes.map fun n => (n.id, n.outgoing)) := by
    rw [hnodes, Groups.image, List.map_map, List.map_map]
    refine List.map_congr_left fun n _ => ?_
    simp only [comp_apply, hφ.id, hφ.outgoing]
  rw [graph, hrows, Groups.collect_image hf]
  rfl

/-- The first node under the image of an ID is the image of the first node under the ID. -/
theorem node?_of_renames (hf : Injective f) (hφ : Node.Renames f φ)
    (hnodes : q'.nodes = q.nodes.map φ) (id : Int) :
    q'.node? (f id) = (q.node? id).map φ := by
  have hsame : ((fun n : Node => n.id == f id) ∘ φ) = fun n => n.id == id := by
    funext n
    rw [comp_apply, hφ.id, Bool.eq_iff_iff, beq_iff_eq, beq_iff_eq, hf.eq_iff]
  rw [node?, node?, hnodes, List.find?_map, hsame]

end Quest
end QuestFlow

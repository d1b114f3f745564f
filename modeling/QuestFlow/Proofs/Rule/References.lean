import Mathlib.Data.List.Forall2
import Mathlib.Data.List.Nodup
import Mathlib.Data.List.Perm.Subperm
import Mathlib.Data.Prod.Basic
import QuestFlow.Proofs.Quest.Payload
import QuestFlow.Proofs.Quest.Writing
import QuestFlow.Rule.References

/-!
# One report for each unknown entity

A quest names entities at many positions of its nodes, and one ID may stand at several of them.  The
rule about mentioned entities is held against the positions: each at which an unknown ID stands has
one report, and nothing else should have one.  A message without a speaker has one all the same.

1. **Reports and places** — `OneForEach` is the relation between what is due at places and a list
   of reports.  It goes through appended lists (`OneForEach.append`) and through lists of lists,
   where the place of a part is the place of the whole and a place within it
   (`OneForEach.flatMap`).
2. **Positions** — `Node.naming?` tells what stands at a position of a node: the ID of an entity,
   the kind that the entity has to be of, and the problem if there is none.
3. **What is reported** — `Quest.oneForEach_references` has the reports of the rule, position by
   position.  The speaker of a message and the items of a list are looked up even where the ID is
   empty, so such a position can have a report too.
4. **What should be** — the crux: a report at an empty ID is one too many, and the number of places
   leaves no room for it (`OneForEach.due_of_due`).  So just where no empty ID is reported, the
   reports are those at positions with an ID (`Quest.oneForEach_due_iff`).
5. **Documents** — the lists of items that are read from a document have no empty ID
   (`PayloadSort.ne_empty_of_mem`), and there only a message without a speaker is in the way.
-/

namespace QuestFlow

/-! ## Reports and places -/

/-- The reports stand for the places one by one: one for each place at which a report is due, and no
others. -/
def OneForEach {ι φ : Type} (due : ι → φ → Prop) (found : List φ) : Prop :=
  ∃ places : List ι, places.Nodup ∧ (∀ p, p ∈ places ↔ ∃ f, due p f) ∧
    List.Forall₂ due places found

namespace OneForEach

variable {ι κ φ : Type} {due due' : ι → φ → Prop} {found found' : List φ}

theorem congr (h : OneForEach due found) (hsame : ∀ p f, due p f ↔ due' p f) :
    OneForEach due' found := by
  have heq : due = due' := funext fun p => funext fun f => propext (hsame p f)
  exact heq ▸ h

theorem nil (hnone : ∀ p f, ¬due p f) : OneForEach due [] := by
  refine ⟨[], List.nodup_nil, fun p => ?_, List.Forall₂.nil⟩
  constructor
  · intro hp
    cases hp
  · rintro ⟨f, hf⟩
    exact absurd hf (hnone p f)

/-- Places may be given other names. -/
theorem image {place : ι → κ} (hinj : Function.Injective place) (h : OneForEach due found) :
    OneForEach (fun p f => ∃ i, place i = p ∧ due i f) found := by
  obtain ⟨places, hnodup, hplaces, hreports⟩ := h
  refine ⟨places.map place, hnodup.map hinj, fun p => ?_, ?_⟩
  · rw [List.mem_map]
    constructor
    · rintro ⟨i, hi, rfl⟩
      obtain ⟨f, hf⟩ := (hplaces i).1 hi
      exact ⟨f, i, rfl, hf⟩
    · rintro ⟨f, i, rfl, hf⟩
      exact ⟨i, (hplaces i).2 ⟨f, hf⟩, rfl⟩
  · rw [List.forall₂_map_left_iff]
    exact hreports.imp fun i f hf => ⟨i, rfl, hf⟩

theorem append (h : OneForEach due found) (h' : OneForEach due' found')
    (hdisjoint : ∀ p f g, due p f → ¬due' p g) :
    OneForEach (fun p f => due p f ∨ due' p f) (found ++ found') := by
  obtain ⟨places, hnodup, hplaces, hreports⟩ := h
  obtain ⟨places', hnodup', hplaces', hreports'⟩ := h'
  refine ⟨places ++ places', ?_, fun p => ?_, ?_⟩
  · refine hnodup.append hnodup' fun p hp hp' => ?_
    obtain ⟨f, hf⟩ := (hplaces p).1 hp
    obtain ⟨g, hg⟩ := (hplaces' p).1 hp'
    exact hdisjoint p f g hf hg
  · rw [List.mem_append, hplaces, hplaces', ← exists_or]
  · exact List.rel_append (hreports.imp fun _ _ => .inl) (hreports'.imp fun _ _ => .inr)

/-- In a list of lists, a place is one in the outer list and one in the list there. -/
theorem flatMap {α : Type} {due : α → ι → φ → Prop} {reports : α → List φ} {xs : List α}
    (h : ∀ x ∈ xs, OneForEach (due x) (reports x)) :
    OneForEach (fun (p : Nat × ι) f => ∃ x, xs[p.1]? = some x ∧ due x p.2 f)
      (xs.flatMap reports) := by
  induction xs with
  | nil =>
    refine nil ?_
    rintro p f ⟨x, hx, -⟩
    cases hx
  | cons x xs ih =>
    have hhead := (h x List.mem_cons_self).image (Prod.mk_right_injective (0 : Nat))
    have hnext : Function.Injective fun p : Nat × ι => (p.1 + 1, p.2) := by
      rintro ⟨i, p⟩ ⟨j, p'⟩ heq
      simpa using heq
    have htail := (ih fun y hy => h y (List.mem_cons_of_mem _ hy)).image hnext
    refine (hhead.append htail ?_).congr ?_
    · rintro _ f g ⟨p, rfl, -⟩ ⟨⟨i, p'⟩, heq, -⟩
      cases heq
    · rintro ⟨_ | i, p⟩ f <;> simp

/-- The reports on the places of one sort. -/
theorem along {due : κ → φ → Prop} (place : ι → κ) (hinj : Function.Injective place)
    (h : OneForEach (fun i => due (place i)) found) :
    OneForEach (fun p f => (∃ i, place i = p) ∧ due p f) found := by
  refine (h.image hinj).congr fun p f => ?_
  constructor
  · rintro ⟨i, rfl, hf⟩
    exact ⟨⟨i, rfl⟩, hf⟩
  · rintro ⟨⟨i, rfl⟩, hf⟩
    exact ⟨i, rfl, hf⟩

/-- The reports on the places of two sorts. -/
theorem both {sort sort' : ι → Prop} (h : OneForEach (fun p f => sort p ∧ due p f) found)
    (h' : OneForEach (fun p f => sort' p ∧ due p f) found')
    (hdisjoint : ∀ p, sort p → ¬sort' p) :
    OneForEach (fun p f => (sort p ∨ sort' p) ∧ due p f) (found ++ found') := by
  refine (h.append h' fun p f g hp hp' => hdisjoint p hp.1 hp'.1).congr fun p f => ?_
  rw [or_and_right]

/-- Where a list has reports for all places that have a due one, no other place has. -/
theorem due_of_due (h : OneForEach due found) (h' : OneForEach due' found)
    (himp : ∀ p f, due p f → due' p f) {p : ι} {f : φ} (hdue : due' p f) : ∃ g, due p g := by
  obtain ⟨places, hnodup, hplaces, hreports⟩ := h
  obtain ⟨places', hnodup', hplaces', hreports'⟩ := h'
  have hsubset : places ⊆ places' := by
    intro p hp
    obtain ⟨f, hf⟩ := (hplaces p).1 hp
    exact (hplaces' p).2 ⟨f, himp p f hf⟩
  have hlength : places'.length ≤ places.length :=
    Nat.le_of_eq (hreports'.length_eq.trans hreports.length_eq.symm)
  have hperm : places.Perm places' :=
    (List.subperm_of_subset hnodup hsubset).perm_of_length_le hlength
  exact (hplaces p).1 (hperm.mem_iff.2 ((hplaces' p).2 ⟨f, hdue⟩))

end OneForEach

/-! ## Positions -/

/-- The ID of an entity in a quest. -/
structure Naming where
  /-- the kind that the entity has to be of -/
  kind : EntityKind
  id : String
  /-- what is wrong if there is no such entity -/
  problem : Problem
  /-- whether the entity speaks, which the player may do too -/
  isVoice : Bool
  /-- whether it is looked up even where the ID is empty -/
  isBare : Bool
  deriving DecidableEq, Repr

namespace Naming

/-- The ID of an entity under a telling key; empty where it was left out. -/
def under (word : String) (kind : EntityKind) (id : Option String) : Naming :=
  ⟨kind, id.getD "", .unknownReference ⟨kind, id.getD "", word⟩, false, false⟩

/-- The types of the stacks in a telling list. -/
def ofStacks (word : String) (items : List String) : List Naming :=
  items.map fun id => { under word .item (some id) with isBare := true }

/-- The one that is talked to. -/
def partner (s : Speech) : Naming :=
  ⟨.character, s.partner, .unknownPartner s.partner, false, false⟩

/-- The one that talks. -/
def speaker (s : Speech) : Naming := ⟨.character, s.speaker, .unknownSpeaker s.speaker, true, false⟩

/-- The one that a message comes from. -/
def message (m : DialogMessage) : Naming :=
  ⟨.character, m.speaker, .unknownMessageSpeaker m.speaker, true, true⟩

variable (catalog : Catalog) (player : String)

/-- Whether there is no such entity, and it is not the player who speaks. -/
def isUnknown (m : Naming) : Bool :=
  !(m.isVoice && m.id == player) && !catalog.knows m.kind m.id

/-- Whether a report has to be made: an ID is given, and it is unknown. -/
def isDue (m : Naming) : Bool := m.id != "" && m.isUnknown catalog player

/-- Whether a report is made. -/
def isReported (m : Naming) : Bool := (m.id != "" || m.isBare) && m.isUnknown catalog player

variable {catalog player} {m : Naming}

theorem isDue_iff : m.isDue catalog player = true ↔
    m.id ≠ "" ∧ m.isUnknown catalog player = true := by
  rw [isDue, Bool.and_eq_true, bne_iff_ne]

theorem isReported_iff : m.isReported catalog player = true ↔
    (m.id ≠ "" ∨ m.isBare = true) ∧ m.isUnknown catalog player = true := by
  rw [isReported, Bool.and_eq_true, Bool.or_eq_true, bne_iff_ne]

end Naming

/-- The IDs of entities in a condition. -/
def Requirement.namings : Requirement → List Naming
  | .resourceAvailability resource => [.under "ResourceAvailability" .resource resource]
  | .itemUsedOnObject item object =>
    [.under "ItemUsedOnObject" .item item, .under "ItemUsedOnObject" .object object]
  | .itemUsedOnNpc item npc =>
    [.under "ItemUsedOnNPC" .item item, .under "ItemUsedOnNPC" .character npc]
  | .factionStanding faction => [.under "FactionStanding" .faction faction]
  | .inventory items => Naming.ofStacks "Inventory" items
  | .itemLost item => [.under "ItemLost" .item item]
  | .questCompleted _ => []
  | .unrecognized => []

/-- The IDs of entities in an action. -/
def Effect.namings : Effect → List Naming
  | .itemsGained items => Naming.ofStacks "ItemsGained" items
  | .itemsLost items => Naming.ofStacks "ItemsLost" items
  | .factionStanding faction => [.under "FactionStanding" .faction faction]
  | .ending _ | .journalEntry | .stageDescription _ | .unrecognized => []

/-- A position in a node at which the ID of an entity can stand.  Conditions, options, actions and
messages are counted from zero, and so are the IDs in each condition and action. -/
inductive Position where
  | partner
  | speaker
  | message (i : Nat)
  | condition (i j : Nat)
  | optionCondition (o i j : Nat)
  | action (i j : Nat)
  deriving DecidableEq, Repr

/-- The ID that stands at a position. -/
def Node.naming? (n : Node) : Position → Option Naming
  | .partner => n.body.speech?.map .partner
  | .speaker => n.body.speech?.map .speaker
  | .message i => n.body.messages[i]?.map .message
  | .condition i j => n.conditions[i]?.bind (·.requirement.namings[j]?)
  | .optionCondition o i j =>
    n.declaredOptions[o]?.bind fun o => o.conditions[i]?.bind (·.requirement.namings[j]?)
  | .action i j => n.actions[i]?.bind (·.effect.namings[j]?)

/-- The finding is the report on the ID at the position, which is one of those selected. -/
def Node.ReportAt (n : Node) (selects : Naming → Bool) (p : Position) (f : Finding) : Prop :=
  ∃ m, n.naming? p = some m ∧ selects m = true ∧ f = ⟨m.problem, some n.id⟩

/-- The same for a place in the quest: that of a node, and a position there. -/
def Quest.ReportAt (q : Quest) (selects : Naming → Bool) (place : Nat × Position) (f : Finding) :
    Prop :=
  ∃ n, q.nodes[place.1]? = some n ∧ n.ReportAt selects place.2 f

/-! ## What is reported -/

section Reports

variable {catalog : Catalog} {player : String} {n : Node}

/-- The reports on IDs that stand one behind the other. -/
def Node.reportsOn (n : Node) (selects : Naming → Bool) (ms : List Naming) : List Finding :=
  ms.flatMap fun m => n.findIf (selects m) m.problem

theorem oneForEach_findIf {selects : Naming → Bool} {m : Naming} :
    OneForEach (fun (_ : Unit) f => selects m = true ∧ f = ⟨m.problem, some n.id⟩)
      (n.findIf (selects m) m.problem) := by
  rw [Node.findIf]
  cases hselects : selects m with
  | false => exact .nil fun _ _ h => absurd h.1 (by decide)
  | true => exact ⟨[()], List.nodup_singleton _, fun _ => by simp, by simp⟩

theorem oneForEach_reportsOn {selects : Naming → Bool} {ms : List Naming} :
    OneForEach (fun (j : Nat) f => ∃ m, ms[j]? = some m ∧ selects m = true ∧
      f = ⟨m.problem, some n.id⟩) (n.reportsOn selects ms) := by
  have hindex : Function.Injective fun p : Nat × Unit => p.1 := by
    rintro ⟨j, ⟨⟩⟩ ⟨k, ⟨⟩⟩ rfl
    rfl
  refine ((OneForEach.flatMap fun m _ => oneForEach_findIf (m := m)).image hindex).congr ?_
  intro j f
  constructor
  · rintro ⟨⟨j, ⟨⟩⟩, rfl, hm⟩
    exact hm
  · intro hm
    exact ⟨(j, ()), rfl, hm⟩

theorem oneForEach_option {selects : Naming → Bool} {m? : Option Naming} :
    OneForEach (fun (_ : Unit) f => ∃ m, m? = some m ∧ selects m = true ∧
      f = ⟨m.problem, some n.id⟩) (n.reportsOn selects m?.toList) := by
  cases m? with
  | none =>
    refine .nil ?_
    rintro p f ⟨m, hm, -⟩
    cases hm
  | some m =>
    have hfindIf : n.reportsOn selects [m] = n.findIf (selects m) m.problem :=
      List.flatMap_singleton _ _
    rw [Option.toList_some, hfindIf]
    exact oneForEach_findIf.congr fun _ _ => by simp

/-- A field that was left out or is empty is no mention, and has no report. -/
theorem unknownReferences_mention {word : String} {kind : EntityKind} {id : Option String} :
    Findings.unknownReferences catalog n (Requirement.references.mention kind id word) =
      n.reportsOn (·.isReported catalog player) [.under word kind id] := by
  rw [Node.reportsOn, List.flatMap_singleton]
  cases id with
  | none => rfl
  | some id =>
    by_cases hempty : id = ""
    · subst hempty
      rfl
    · have hreported : (Naming.under word kind (some id)).isReported catalog player =
          !catalog.knows kind id := by
        simp [Naming.isReported, Naming.isUnknown, Naming.under, hempty]
      have hmention : Requirement.references.mention kind (some id) word = [⟨kind, id, word⟩] := by
        simp [Requirement.references.mention, hempty]
      rw [hreported, hmention, Findings.unknownReferences, List.flatMap_singleton]
      rfl

/-- Each stack has a report if its item is unknown, whatever the ID. -/
theorem unknownReferences_mentions {word : String} {items : List String} :
    Findings.unknownReferences catalog n (Requirement.references.mentions .item items word) =
      n.reportsOn (·.isReported catalog player) (Naming.ofStacks word items) := by
  rw [Findings.unknownReferences, Requirement.references.mentions, Node.reportsOn, Naming.ofStacks,
    List.flatMap_map, List.flatMap_map]
  simp [Naming.isReported, Naming.isUnknown, Naming.under]

theorem unknownReferences_append (mentions mentions' : List Reference) :
    Findings.unknownReferences catalog n (mentions ++ mentions') =
      Findings.unknownReferences catalog n mentions ++
        Findings.unknownReferences catalog n mentions' :=
  List.flatMap_append

theorem Node.reportsOn_cons {selects : Naming → Bool} {m : Naming} {ms : List Naming} :
    n.reportsOn selects (m :: ms) = n.reportsOn selects [m] ++ n.reportsOn selects ms := by
  rw [reportsOn, reportsOn, reportsOn, List.flatMap_cons, List.flatMap_singleton]

variable (catalog player n) in
theorem unknownReferences_requirement (a : Requirement) :
    Findings.unknownReferences catalog n a.references =
      n.reportsOn (·.isReported catalog player) a.namings := by
  cases a with
  | inventory items => exact unknownReferences_mentions
  | itemUsedOnObject item object =>
    rw [Requirement.references, unknownReferences_append, Requirement.namings,
      Node.reportsOn_cons, unknownReferences_mention, unknownReferences_mention]
  | itemUsedOnNpc item npc =>
    rw [Requirement.references, unknownReferences_append, Requirement.namings,
      Node.reportsOn_cons, unknownReferences_mention, unknownReferences_mention]
  | questCompleted _ | unrecognized => rfl
  | _ => exact unknownReferences_mention

variable (catalog player n) in
theorem unknownReferences_effect (a : Effect) :
    Findings.unknownReferences catalog n a.references =
      n.reportsOn (·.isReported catalog player) a.namings := by
  cases a with
  | itemsGained items | itemsLost items => exact unknownReferences_mentions
  | factionStanding faction => exact unknownReferences_mention
  | _ => rfl

/-- The reports on those who talk. -/
def Node.voiceReports (n : Node) (selects : Naming → Bool) : List Finding :=
  n.reportsOn selects (n.body.speech?.map .partner).toList ++
    n.reportsOn selects (n.body.speech?.map .speaker).toList ++
    n.reportsOn selects (n.body.messages.map .message)

/-- The reports on what conditions and actions name. -/
def Node.payloadReports (n : Node) (selects : Naming → Bool) : List Finding :=
  (n.conditions.flatMap fun c => n.reportsOn selects c.requirement.namings) ++
    (n.declaredOptions.flatMap fun o =>
      o.conditions.flatMap fun c => n.reportsOn selects c.requirement.namings) ++
    n.actions.flatMap fun a => n.reportsOn selects a.effect.namings

variable (catalog player n) in
theorem unknownSpeakers_eq_voiceReports : Findings.unknownSpeakers catalog player n =
    n.voiceReports (·.isReported catalog player) := by
  rw [Findings.unknownSpeakers, Node.voiceReports]
  congr 1
  · cases n.body.speech? with
    | none => rfl
    | some s =>
      simp [Node.reportsOn, Naming.partner, Naming.speaker, Naming.isReported, Naming.isUnknown,
        bne, Bool.and_assoc]
  · rw [Node.reportsOn, List.flatMap_map]
    simp [Naming.message, Naming.isReported, Naming.isUnknown, bne]

variable (catalog player n) in
theorem unknownReferences_eq_payloadReports :
    Findings.unknownReferences catalog n (Findings.mentions n) =
      n.payloadReports (·.isReported catalog player) := by
  have hconditions : ∀ cs : List Condition,
      Findings.unknownReferences catalog n (cs.flatMap (·.references)) =
        cs.flatMap fun c => n.reportsOn (·.isReported catalog player) c.requirement.namings := by
    intro cs
    rw [Findings.unknownReferences, List.flatMap_assoc]
    exact congrArg (List.flatMap · cs) (funext fun c => unknownReferences_requirement _ _ _ _)
  have hactions : Findings.unknownReferences catalog n (n.actions.flatMap (·.references)) =
      n.actions.flatMap fun a => n.reportsOn (·.isReported catalog player) a.effect.namings := by
    rw [Findings.unknownReferences, List.flatMap_assoc]
    exact congrArg (List.flatMap · n.actions) (funext fun a => unknownReferences_effect _ _ _ _)
  rw [Findings.mentions, unknownReferences_append, hactions, hconditions, Node.allConditions,
    List.flatMap_append, List.flatMap_assoc, Node.payloadReports]

/-- Whether the position is one in a condition or an action. -/
def Position.isInPayload : Position → Bool
  | .partner | .speaker | .message _ => false
  | .condition .. | .optionCondition .. | .action .. => true

/-- The reports on those who talk, position by position. -/
theorem Node.oneForEach_voiceReports (n : Node) (selects : Naming → Bool) :
    OneForEach (fun p f => p.isInPayload = false ∧ n.ReportAt selects p f)
      (n.voiceReports selects) := by
  have hpartner : OneForEach (fun (_ : Unit) => n.ReportAt selects .partner)
      (n.reportsOn selects (n.body.speech?.map .partner).toList) := oneForEach_option
  have hspeaker : OneForEach (fun (_ : Unit) => n.ReportAt selects .speaker)
      (n.reportsOn selects (n.body.speech?.map .speaker).toList) := oneForEach_option
  have hmessages : OneForEach (fun i => n.ReportAt selects (.message i))
      (n.reportsOn selects (n.body.messages.map .message)) :=
    oneForEach_reportsOn.congr fun i f => by rw [List.getElem?_map]; rfl
  have hspeech := (hpartner.along (fun _ => Position.partner) fun _ _ _ => rfl).both
    (hspeaker.along (fun _ => Position.speaker) fun _ _ _ => rfl)
    (by rintro _ hp ⟨_, rfl⟩; simp at hp)
  have hvoices := hspeech.both
    (hmessages.along Position.message (by rintro _ _ ⟨⟩; rfl))
    (by rintro _ hp ⟨_, rfl⟩; simp at hp)
  refine hvoices.congr fun p f => and_congr_left fun _ => ?_
  cases p <;> simp [Position.isInPayload]

/-- What holds of what is found behind something found is told by finding both. -/
theorem exists_bind_iff {α β : Type} {a? : Option α} {g : α → Option β} {holds : β → Prop} :
    (∃ b, a?.bind g = some b ∧ holds b) ↔ ∃ a, a? = some a ∧ ∃ b, g a = some b ∧ holds b := by
  cases a? <;> simp

/-- The reports on what conditions and actions name, position by position. -/
theorem Node.oneForEach_payloadReports (n : Node) (selects : Naming → Bool) :
    OneForEach (fun p f => p.isInPayload = true ∧ n.ReportAt selects p f)
      (n.payloadReports selects) := by
  have hconditions : OneForEach (fun p : Nat × Nat => n.ReportAt selects (.condition p.1 p.2))
      (n.conditions.flatMap fun c => n.reportsOn selects c.requirement.namings) :=
    (OneForEach.flatMap fun c _ => oneForEach_reportsOn).congr fun _ _ => exists_bind_iff.symm
  have hoptions : OneForEach
      (fun p : Nat × Nat × Nat => n.ReportAt selects (.optionCondition p.1 p.2.1 p.2.2))
      (n.declaredOptions.flatMap fun o =>
        o.conditions.flatMap fun c => n.reportsOn selects c.requirement.namings) := by
    refine (OneForEach.flatMap fun o _ => OneForEach.flatMap fun c _ =>
      oneForEach_reportsOn).congr fun p f => ?_
    rw [ReportAt, naming?, exists_bind_iff]
    exact exists_congr fun o => and_congr_right fun _ => exists_bind_iff.symm
  have hactions : OneForEach (fun p : Nat × Nat => n.ReportAt selects (.action p.1 p.2))
      (n.actions.flatMap fun a => n.reportsOn selects a.effect.namings) :=
    (OneForEach.flatMap fun a _ => oneForEach_reportsOn).congr fun _ _ => exists_bind_iff.symm
  have hasked := (hconditions.along (fun p : Nat × Nat => Position.condition p.1 p.2)
    (by rintro ⟨_, _⟩ ⟨_, _⟩ ⟨⟩; rfl)).both
    (hoptions.along (fun p : Nat × Nat × Nat => Position.optionCondition p.1 p.2.1 p.2.2)
      (by rintro ⟨_, _, _⟩ ⟨_, _, _⟩ ⟨⟩; rfl))
    (by rintro _ hp ⟨_, rfl⟩; simp at hp)
  have hpayloads := hasked.both
    (hactions.along (fun p : Nat × Nat => Position.action p.1 p.2)
      (by rintro ⟨_, _⟩ ⟨_, _⟩ ⟨⟩; rfl))
    (by rintro _ hp ⟨_, rfl⟩; simp at hp)
  refine hpayloads.congr fun p f => and_congr_left fun _ => ?_
  cases p <;> simp [Position.isInPayload]

/-- The reports on the IDs in a quest, in the order of the document. -/
def Quest.reportsOn (q : Quest) (selects : Naming → Bool) : List Finding :=
  q.nodes.flatMap fun n => n.voiceReports selects ++ n.payloadReports selects

/-- The rule reports on the IDs that it looks up in vain. -/
theorem Quest.references_eq_reportsOn (q : Quest) (catalog : Catalog) (player : String) :
    Findings.references catalog player q = q.reportsOn (·.isReported catalog player) := by
  refine List.flatMap_congr fun n _ => ?_
  rw [unknownSpeakers_eq_voiceReports, unknownReferences_eq_payloadReports catalog player]

/-- The reports on the IDs that are selected, place by place. -/
theorem Quest.oneForEach_reportsOn (q : Quest) (selects : Naming → Bool) :
    OneForEach (q.ReportAt selects) (q.reportsOn selects) := by
  refine OneForEach.flatMap fun n _ => ?_
  refine ((n.oneForEach_voiceReports _).both (n.oneForEach_payloadReports _) ?_).congr ?_
  · intro p hvoice hpayload
    rw [hvoice] at hpayload
    cases hpayload
  · intro p f
    cases p <;> simp [Position.isInPayload]

/-- **The reports of the rule**, place by place. -/
theorem Quest.oneForEach_references (q : Quest) (catalog : Catalog) (player : String) :
    OneForEach (q.ReportAt (·.isReported catalog player))
      (Findings.references catalog player q) := by
  rw [references_eq_reportsOn]
  exact q.oneForEach_reportsOn _

end Reports

/-! ## What should be reported -/

namespace Quest

variable {q : Quest} {catalog : Catalog} {player : String}

/-- No empty ID is reported. -/
def SparesEmpty (q : Quest) (catalog : Catalog) (player : String) : Prop :=
  ∀ n ∈ q.nodes, ∀ p m, n.naming? p = some m → m.isBare = true → m.id = "" →
    m.isUnknown catalog player = false

/-- The reports are those at positions with an ID just where no empty ID is reported. -/
theorem oneForEach_due_iff :
    OneForEach (q.ReportAt (·.isDue catalog player)) (Findings.references catalog player q) ↔
      q.SparesEmpty catalog player := by
  have hreported := q.oneForEach_references catalog player
  constructor
  · intro hdue n hn p m hm hbare hempty
    obtain ⟨k, hk⟩ := List.getElem?_of_mem hn
    by_contra hunknown
    rw [Bool.not_eq_false] at hunknown
    have himp : ∀ place f, q.ReportAt (·.isDue catalog player) place f →
        q.ReportAt (·.isReported catalog player) place f := by
      rintro place f ⟨n, hn, m, hm, hisDue, hf⟩
      obtain ⟨hfilled, hunknown⟩ := Naming.isDue_iff.1 hisDue
      exact ⟨n, hn, m, hm, Naming.isReported_iff.2 ⟨.inl hfilled, hunknown⟩, hf⟩
    -- the report on the empty ID has no place among those that are due
    obtain ⟨f, n', hn', m', hm', hisDue, -⟩ := hdue.due_of_due hreported himp (p := (k, p))
      ⟨n, hk, m, hm, Naming.isReported_iff.2 ⟨.inr hbare, hunknown⟩, rfl⟩
    obtain rfl := Option.some.inj (hk.symm.trans hn')
    obtain rfl := Option.some.inj (hm.symm.trans hm')
    exact (Naming.isDue_iff.1 hisDue).1 hempty
  · intro hspares
    refine hreported.congr fun place f => exists_congr fun n => and_congr_right fun hn => ?_
    refine exists_congr fun m => and_congr_right fun hm => and_congr_left fun _ => ?_
    have hnode : n ∈ q.nodes := List.mem_of_getElem? hn
    constructor
    · intro hreported
      obtain ⟨hlooked, hunknown⟩ := Naming.isReported_iff.1 hreported
      refine Naming.isDue_iff.2 ⟨fun hempty => ?_, hunknown⟩
      rcases hlooked with hfilled | hbare
      · exact hfilled hempty
      · rw [hspares n hnode place.2 m hm hbare hempty] at hunknown
        cases hunknown
    · intro hisDue
      obtain ⟨hfilled, hunknown⟩ := Naming.isDue_iff.1 hisDue
      exact Naming.isReported_iff.2 ⟨.inl hfilled, hunknown⟩

end Quest

/-! ## Documents -/

section Reading

variable {α : Type} {read : Value → Checked α} {field : Spelled} {es : Entries}

/-- A member of a list that was read was read itself. -/
theorem exists_read_of_mem_list {v : Value} {xs : List α} (hread : Value.readList read v = .ok xs)
    {x : α} (hx : x ∈ xs) : ∃ v, read v = .ok x := by
  obtain ⟨items, -, hitems⟩ := Value.readList_eq_ok_iff.1 hread
  obtain ⟨item, -, hitem⟩ := exists_mem_of_forall₂ hitems.flip hx
  exact ⟨item, hitem⟩

theorem exists_read_of_mem {xs : List α}
    (hread : field.optional (Value.readList read) [] es = .ok xs) {x : α} (hx : x ∈ xs) :
    ∃ v, read v = .ok x := by
  obtain ⟨v, hv⟩ := Spelled.exists_read_of_optional hread ⟨.list [], rfl⟩
  exact exists_read_of_mem_list hv hx

theorem exists_read_of_mem_nullable {xs? : Option (List α)}
    (hread : field.optional (Value.readNullable (Value.readList read)) none es = .ok xs?) {x : α}
    (hx : x ∈ xs?.getD []) : ∃ v, read v = .ok x := by
  cases xs? with
  | none => cases hx
  | some xs =>
    obtain ⟨v, hv⟩ := Spelled.exists_read_of_nullable hread
    exact exists_read_of_mem_list hv hx

end Reading

theorem Body.exists_read_of_mem_options {b : Body} {es : Entries} (hparts : b.PartsFrom es)
    {o : DialogOption} (ho : o ∈ b.options ++ b.strayOptions) :
    ∃ v, DialogOption.read v = .ok o := by
  have hflat : ∀ e : FlatEdges, FlatEdges.read es = .ok e → o ∈ e.strayOptions.getD [] →
      ∃ v, DialogOption.read v = .ok o := by
    intro e he ho
    exact exists_read_of_mem_nullable (FlatEdges.read_eq_ok_iff.1 he).2.2.2 ho
  cases b with
  | entryPoint e => exact hflat e hparts ho
  | actions e list => exact hflat e hparts.1 ho
  | dialog e speech messages => exact hflat e hparts.1 ho
  | questProgress e progressors => exact hflat e hparts.1 ho
  | decision type speech options strayNext =>
    rcases List.mem_append.1 ho with ho | ho
    · exact exists_read_of_mem hparts.2.1 ho
    · cases ho
  | conditionBranch required ifTrue ifFalse strayNext => cases ho
  | unmodelled type next ifTrue ifFalse options =>
    rcases List.mem_append.1 ho with ho | ho
    · exact exists_read_of_mem hparts.2.2.2 ho
    · cases ho

theorem Body.exists_read_of_mem_actionList {b : Body} {es : Entries} (hparts : b.PartsFrom es)
    {a : Action} (ha : a ∈ b.actionList) : ∃ v, a = .ofValue v := by
  cases b with
  | actions e list =>
    obtain ⟨v, hv⟩ := exists_read_of_mem hparts.2 ha
    exact ⟨v, (Checked.ok.inj hv).symm⟩
  | _ => cases ha

theorem exists_read_of_mem_conditions {es : Entries} {cs : List Condition}
    (hread : conditionsField.optional readConditions [] es = .ok cs) {c : Condition}
    (hc : c ∈ cs) : ∃ v, c = .ofValue v := by
  obtain ⟨v, hv⟩ := exists_read_of_mem hread hc
  exact ⟨v, (Checked.ok.inj hv).symm⟩

/-- The conditions and actions of the node are those of values. -/
structure Node.Read (n : Node) : Prop where
  conditions : ∀ c ∈ n.conditions, ∃ v, c = .ofValue v
  options : ∀ o ∈ n.declaredOptions, ∀ c ∈ o.conditions, ∃ v, c = .ofValue v
  actions : ∀ a ∈ n.actions, ∃ v, a = .ofValue v

theorem Quest.read_of_mem_nodes {q : Quest} {doc : Value} {source : Option Path}
    (hread : Quest.ofDocument doc source = .ok q) {n : Node} (hn : n ∈ q.nodes) : n.Read := by
  obtain ⟨es, q, rfl, hentries, rfl⟩ := Quest.ofDocument_eq_ok_iff.1 hread
  obtain ⟨-, -, -, -, -, -, hnodes, -, -⟩ := Quest.readEntries_eq_ok_iff.1 hentries
  obtain ⟨v, hv⟩ := exists_read_of_mem hnodes hn
  obtain ⟨es, t, rfl, -, hnode⟩ := Node.read_eq_ok_iff.1 hv
  obtain ⟨-, hconditions, hbody, -⟩ := Node.readEntries_eq_ok_iff.1 hnode
  obtain ⟨-, -, hparts⟩ := Body.read_eq_ok_iff.1 hbody
  refine ⟨fun c hc => exists_read_of_mem_conditions hconditions hc, fun o ho c hc => ?_,
    fun a ha => Body.exists_read_of_mem_actionList hparts ha⟩
  obtain ⟨v, hv⟩ := Body.exists_read_of_mem_options hparts ho
  obtain ⟨es, rfl, -, hconditions, -, -⟩ := DialogOption.read_eq_ok_iff.1 hv
  exact exists_read_of_mem_conditions hconditions hc

/-- What is looked up even where the ID is empty is a mention of the condition. -/
theorem Requirement.exists_reference_of_bare {a : Requirement} {m : Naming} (hm : m ∈ a.namings)
    (hbare : m.isBare = true) : ∃ r ∈ a.references, r.id = m.id := by
  cases a with
  | inventory items =>
    obtain ⟨id, hid, rfl⟩ := List.mem_map.1 hm
    exact ⟨⟨.item, id, "Inventory"⟩, mem_mentions_iff.2 ⟨rfl, rfl, hid⟩, rfl⟩
  | itemUsedOnObject _ _ | itemUsedOnNpc _ _ =>
    rcases List.mem_pair.1 hm with rfl | rfl <;> cases hbare
  | resourceAvailability _ | factionStanding _ | itemLost _ =>
    obtain rfl := List.mem_singleton.1 hm
    cases hbare
  | questCompleted _ | unrecognized => cases hm

/-- The same for an action. -/
theorem Effect.exists_reference_of_bare {a : Effect} {m : Naming} (hm : m ∈ a.namings)
    (hbare : m.isBare = true) : ∃ r ∈ a.references, r.id = m.id := by
  cases a with
  | itemsGained items =>
    obtain ⟨id, hid, rfl⟩ := List.mem_map.1 hm
    exact ⟨⟨.item, id, "ItemsGained"⟩, Requirement.mem_mentions_iff.2 ⟨rfl, rfl, hid⟩, rfl⟩
  | itemsLost items =>
    obtain ⟨id, hid, rfl⟩ := List.mem_map.1 hm
    exact ⟨⟨.item, id, "ItemsLost"⟩, Requirement.mem_mentions_iff.2 ⟨rfl, rfl, hid⟩, rfl⟩
  | factionStanding _ =>
    obtain rfl := List.mem_singleton.1 hm
    cases hbare
  | ending _ | journalEntry | stageDescription _ | unrecognized => cases hm

/-- No mention in a value is empty. -/
theorem PayloadSort.ne_empty_of_mem {α : Type} {s : PayloadSort α} {v : Value} {id : String}
    (hmention : ∃ r ∈ s.references (s.ofValue v), r.id = id) : id ≠ "" := by
  obtain ⟨r, hr, rfl⟩ := hmention
  obtain ⟨w, -, hfilled, -⟩ := (s.told.references_iff v r).1 hr
  exact hfilled

/-- In a node that was read, the empty ID that is looked up is the speaker of a message. -/
theorem Node.Read.exists_message {n : Node} (hread : n.Read) {p : Position} {m : Naming}
    (hm : n.naming? p = some m) (hbare : m.isBare = true) (hempty : m.id = "") :
    ∃ message ∈ n.body.messages, m = .message message := by
  have hcondition : ∀ {c : Condition} {j : Nat}, (∃ v, c = .ofValue v) →
      c.requirement.namings[j]? = some m → m.id ≠ "" := by
    rintro c j ⟨v, rfl⟩ hm
    exact PayloadSort.ne_empty_of_mem (s := conditionSort) (v := v)
      (Requirement.exists_reference_of_bare (List.mem_of_getElem? hm) hbare)
  cases p with
  | partner =>
    obtain ⟨s, -, rfl⟩ := Option.map_eq_some_iff.1 hm
    cases hbare
  | speaker =>
    obtain ⟨s, -, rfl⟩ := Option.map_eq_some_iff.1 hm
    cases hbare
  | message i =>
    obtain ⟨message, hmessage, rfl⟩ := Option.map_eq_some_iff.1 hm
    exact ⟨message, List.mem_of_getElem? hmessage, rfl⟩
  | condition i j =>
    obtain ⟨c, hc, hm⟩ := Option.bind_eq_some_iff.1 hm
    have hvalue := hread.conditions c (List.mem_of_getElem? hc)
    exact absurd hempty (hcondition hvalue hm)
  | optionCondition o i j =>
    obtain ⟨o, ho, hm⟩ := Option.bind_eq_some_iff.1 hm
    obtain ⟨c, hc, hm⟩ := Option.bind_eq_some_iff.1 hm
    have hvalue := hread.options o (List.mem_of_getElem? ho) c (List.mem_of_getElem? hc)
    exact absurd hempty (hcondition hvalue hm)
  | action i j =>
    obtain ⟨a, ha, hm⟩ := Option.bind_eq_some_iff.1 hm
    obtain ⟨v, rfl⟩ := hread.actions a (List.mem_of_getElem? ha)
    exact absurd hempty (PayloadSort.ne_empty_of_mem (s := actionSort) (v := v)
      (Effect.exists_reference_of_bare (List.mem_of_getElem? hm) hbare))

namespace Quest

variable {q : Quest} {catalog : Catalog} {player : String}

/-- In a quest that was read, only a message without a speaker can have such a report. -/
theorem sparesEmpty_iff_of_read {doc : Value} {source : Option Path}
    (hread : ofDocument doc source = .ok q) : q.SparesEmpty catalog player ↔
      ∀ n ∈ q.nodes, ∀ m ∈ n.body.messages, m.speaker = "" →
        player = "" ∨ "" ∈ catalog.ids .character := by
  have hunknown : ∀ {m : DialogMessage}, m.speaker = "" →
      ((Naming.message m).isUnknown catalog player = false ↔
        player = "" ∨ "" ∈ catalog.ids .character) := by
    intro m hempty
    rw [or_iff_not_imp_left]
    simp [Naming.isUnknown, Naming.message, hempty, eq_comm (a := "")]
  constructor
  · intro hspares n hn m hm hempty
    obtain ⟨i, hi⟩ := List.getElem?_of_mem hm
    have hnaming : n.naming? (.message i) = some (.message m) := by
      rw [Node.naming?, hi, Option.map_some]
    exact (hunknown hempty).1 (hspares n hn (.message i) _ hnaming rfl hempty)
  · intro hmessages n hn p m hm hbare hempty
    obtain ⟨message, hmessage, rfl⟩ := (read_of_mem_nodes hread hn).exists_message hm hbare hempty
    exact (hunknown hempty).2 (hmessages n hn message hmessage hempty)

/-- The rule about mentioned entities, held against the positions of a quest. -/
structure ReferencesChecked (q : Quest) (catalog : Catalog) (player : String) : Prop where
  /-- an unknown ID has a report, and so has an empty one where the ID cannot be left out -/
  reported : OneForEach (q.ReportAt (·.isReported catalog player))
    (Findings.references catalog player q)
  /-- the reports are one for each unknown ID that is given just where no empty one is reported -/
  due_iff : OneForEach (q.ReportAt (·.isDue catalog player))
    (Findings.references catalog player q) ↔ q.SparesEmpty catalog player
  /-- in a quest that was read: just where each message has a speaker, or the empty ID is known -/
  due_iff_of_read : ∀ doc source, ofDocument doc source = .ok q →
    (OneForEach (q.ReportAt (·.isDue catalog player)) (Findings.references catalog player q) ↔
      ∀ n ∈ q.nodes, ∀ m ∈ n.body.messages, m.speaker = "" →
        player = "" ∨ "" ∈ catalog.ids .character)

/-- **One report for each unknown entity**, and none for a missing ID but that of a speaker of a
message. -/
theorem referencesChecked (q : Quest) (catalog : Catalog) (player : String) :
    q.ReferencesChecked catalog player where
  reported := q.oneForEach_references catalog player
  due_iff := oneForEach_due_iff
  due_iff_of_read _ _ hread := oneForEach_due_iff.trans (sparesEmpty_iff_of_read hread)

end Quest

/-- A dialog with a message that leaves its speaker out. -/
def whisper : Value :=
  .ofFields [("QuestID", .text "Q1"), ("QuestNodes", .list [.ofFields
    [("NodeID", .int 1), ("NodeType", .text "Dialog"), ("Messages", .list [.ofFields []])]])]

/-- The empty ID is reported, although no entity is mentioned. -/
theorem whisper_empty_reported : ∃ q, Quest.ofDocument whisper none = .ok q ∧
    Findings.references .empty "Player" q = [⟨.unknownMessageSpeaker "", some 1⟩] ∧
    ¬OneForEach (q.ReportAt (·.isDue .empty "Player")) (Findings.references .empty "Player" q) := by
  refine ⟨_, rfl, rfl, ?_⟩
  rw [Quest.oneForEach_due_iff]
  intro hspares
  have hknown := hspares _ List.mem_cons_self (.message 0) _ rfl rfl rfl
  cases hknown

end QuestFlow

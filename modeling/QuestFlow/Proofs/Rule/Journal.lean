import QuestFlow.Proofs.Graph.Distance
import QuestFlow.Proofs.Rule.Flow

/-!
# What the rules about the journal mean

The two rules search the graph, one forward from each entry point and one backward from each ending.
What they promise is about walks, and `Quest.journalExact` says that they keep it, for every quest
whose node IDs are distinct; edges may lead nowhere and walks may go round in circles.

1. **Forward** — `inKnownSteps_iff` ties the steps of the search to walks: so many steps from the
   edges of an entry point are a walk with two IDs more.  So the node that the search ends at is an
   actions node that no other is nearer than (`Quest.StartReport`).
2. **Backward** — `journalWalk_iff`: the nodes that the search collects are those that a walk of
   actions nodes leads from, so the rule asks for a walk on which the journal is written at its
   start (`Quest.EndReport`).
-/

namespace QuestFlow

open Relation

variable {q : Quest} {a b : Int} {ids : List Int}

/-- An entry point is no actions node. -/
theorem Node.isActions_of_isEntryPoint {n : Node} (hentry : n.isEntryPoint = true) :
    n.isActions = false := by
  have hvariant : n.variant = .entryPoint := by simpa [isEntryPoint] using hentry
  rw [isActions, hvariant]
  rfl

namespace Quest

/-! ## What should be reported -/

/-- A walk along legal edges from one ID to another. -/
structure IsWalkBetween (q : Quest) (a : Int) (ids : List Int) (b : Int) : Prop where
  walk : q.IsWalk ids
  starts : ids.head? = some a
  ends : ids.getLast? = some b

/-- No walk from the node leads to an actions node. -/
def NoActionsFrom (q : Quest) (entry : Node) : Prop :=
  ∀ m ∈ q.nodes, m.isActions = true → ∀ ids, ¬ q.IsWalkBetween entry.id ids m.id

/-- An actions node at the least distance from the entry point: a walk leads to it, and no walk to
an actions node is shorter. -/
structure FirstActions (q : Quest) (entry first : Node) : Prop where
  mem : first ∈ q.nodes
  isActions : first.isActions = true
  nearest : ∃ ids, q.IsWalkBetween entry.id ids first.id ∧
    ∀ m ∈ q.nodes, m.isActions = true → ∀ ids', q.IsWalkBetween entry.id ids' m.id →
      ids.length ≤ ids'.length

/-- What should be reported about the start of the flow from an entry point. -/
inductive StartReport (q : Quest) (entry : Node) : List Finding → Prop where
  /-- no actions node can be reached -/
  | unreached (hnone : q.NoActionsFrom entry) : StartReport q entry [⟨.noActions, some entry.id⟩]
  /-- whatever an actions node at the least distance lacks -/
  | opened (first : Node) (hfirst : q.FirstActions entry first) :
    StartReport q entry
      ((if first.writesJournal then [] else [⟨.startWithoutJournal, some first.id⟩]) ++
        (if first.describesStage then [] else [⟨.startWithoutStage, some first.id⟩]))

/-- A walk of actions nodes to the given ID, the first of which writes into the journal. -/
structure JournalWalk (q : Quest) (ids : List Int) (b : Int) : Prop where
  walk : q.IsWalk ids
  ends : ids.getLast? = some b
  actions : ∀ id ∈ ids, ∃ m ∈ q.nodes, m.id = id ∧ m.isActions = true
  journal : ∃ m ∈ q.nodes, ids.head? = some m.id ∧ m.writesJournal = true

/-- What should be reported about a node at the end of a flow. -/
inductive EndReport (q : Quest) (n : Node) : List Finding → Prop where
  | missing (hterminal : n.isTerminal = true) (hnone : ∀ ids, ¬ q.JournalWalk ids n.id) :
    EndReport q n [⟨.endWithoutJournal, some n.id⟩]
  | silent (hwritten : n.isTerminal = true → ∃ ids, q.JournalWalk ids n.id) : EndReport q n []

/-- The rules about the journal report what they should, and nothing else. -/
structure JournalExact (q : Quest) : Prop where
  /-- an ending is reported exactly when no walk of actions nodes brings a journal entry to it -/
  ending : ∀ n ∈ q.nodes, n.isTerminal = true →
    (⟨.endWithoutJournal, some n.id⟩ ∈ Findings.journalAtEnd q ↔
      ¬ ∃ ids, q.JournalWalk ids n.id)
  /-- node after node, nothing else is reported about the ends of flows -/
  endings : ∃ reports, Findings.journalAtEnd q = reports.flatten ∧
    List.Forall₂ q.EndReport q.nodes reports
  /-- an entry point is reported exactly when no actions node can be reached from it -/
  entry : ∀ n ∈ q.entryPoints,
    (⟨.noActions, some n.id⟩ ∈ Findings.journalAtStart q ↔ q.NoActionsFrom n)
  /-- entry point after entry point, nothing else is reported about the starts of flows -/
  entries : ∃ reports, Findings.journalAtStart q = reports.flatten ∧
    List.Forall₂ q.StartReport q.entryPoints reports

/-! ## Forward: steps and walks -/

theorem isSome_node?_iff : (q.node? a).isSome = true ↔ a ∈ q.nodeIds := by
  rw [node?, List.find?_isSome, mem_nodeIds]
  simp

/-- A chain of legal edges that ends in the quest has been in it all the way. -/
theorem mem_nodeIds_of_isChain (hchain : ids.IsChain q.LeadsTo) (hlast : ids.getLast? = some b)
    (hb : b ∈ q.nodeIds) : ∀ id ∈ ids, id ∈ q.nodeIds := by
  induction ids with
  | nil => exact fun id hid => absurd hid List.not_mem_nil
  | cons a ids ih =>
    cases ids with
    | nil =>
      obtain rfl : a = b := by simpa using hlast
      simpa using hb
    | cons c ids =>
      obtain ⟨hedge, hrest⟩ := List.isChain_cons_cons.1 hchain
      rw [List.getLast?_cons_cons] at hlast
      exact List.forall_mem_cons.2 ⟨hedge.source_mem, ih hrest hlast⟩

/-- Following a chain of legal edges inside the quest adds its length to the steps. -/
theorem inKnownSteps_of_isChain {start : List Int} {n : Nat} {rest : List Int}
    (hsteps : q.graph.InKnownSteps q.node? start n a) (hchain : (a :: rest).IsChain q.LeadsTo)
    (hknown : ∀ id ∈ rest, id ∈ q.nodeIds) (hlast : (a :: rest).getLast? = some b) :
    q.graph.InKnownSteps q.node? start (n + rest.length) b := by
  induction rest generalizing a n with
  | nil =>
    obtain rfl : a = b := by simpa using hlast
    exact hsteps
  | cons c rest ih =>
    obtain ⟨hedge, hrest⟩ := List.isChain_cons_cons.1 hchain
    obtain ⟨hc, hknown⟩ := List.forall_mem_cons.1 hknown
    rw [List.getLast?_cons_cons] at hlast
    have hstep : q.graph.InKnownSteps q.node? start (n + 1) c :=
      ⟨a, hsteps, edge_graph_iff.2 hedge, isSome_node?_iff.2 hc⟩
    have hend := ih hstep hrest hknown hlast
    rwa [Nat.add_right_comm, Nat.add_assoc] at hend

/-- **Steps are walks.**  So many steps from the edges of a node lead to an ID of the quest exactly
when a walk with two IDs more does: the node itself, and the one after the first edge. -/
theorem inKnownSteps_iff (hdistinct : q.nodeIds.Nodup) {entry : Node} (hentry : entry ∈ q.nodes)
    {n : Nat} (hb : b ∈ q.nodeIds) :
    q.graph.InKnownSteps q.node? entry.outgoing n b ↔
      ∃ ids, ids.length = n + 2 ∧ q.IsWalkBetween entry.id ids b := by
  constructor
  · intro hsteps
    -- the steps before the last end at another ID, so the claim has to hold for all of them
    clear hb
    induction n generalizing b with
    | zero =>
      have hedge : q.LeadsTo entry.id b := ⟨entry, hentry, rfl, (List.mem_filter.1 hsteps).1⟩
      exact ⟨[entry.id, b], rfl, ⟨⟨entry, hentry, rfl⟩, by simpa using hedge⟩, rfl, rfl⟩
    | succ n ih =>
      obtain ⟨c, hc, hedge, -⟩ := hsteps
      obtain ⟨ids, hlength, hwalk, hhead, hlast⟩ := ih hc
      have hfurther := hwalk.concat hlast (edge_graph_iff.1 hedge)
      refine ⟨ids ++ [b], by simp [hlength], hfurther, ?_, List.getLast?_concat⟩
      rw [List.head?_append, hhead]
      rfl
  · rintro ⟨ids, hlength, ⟨-, hchain⟩, hhead, hlast⟩
    have hknown := mem_nodeIds_of_isChain hchain hlast hb
    match ids, hlength with
    | c :: d :: rest, hlength =>
      obtain rfl : c = entry.id := by simpa using hhead
      obtain ⟨hedge, hrest⟩ := List.isChain_cons_cons.1 hchain
      obtain ⟨-, hd, hknown⟩ : _ ∧ d ∈ q.nodeIds ∧ ∀ id ∈ rest, id ∈ q.nodeIds := by
        simpa using hknown
      rw [List.getLast?_cons_cons] at hlast
      have hfirst : q.graph.InKnownSteps q.node? entry.outgoing 0 d := by
        refine List.mem_filter.2 ⟨?_, isSome_node?_iff.2 hd⟩
        exact (leadsTo_iff_of_mem hdistinct hentry).1 hedge
      have hend := inKnownSteps_of_isChain hfirst hrest hknown hlast
      have hn : 0 + rest.length = n := by
        simp only [List.length_cons] at hlength
        omega
      rwa [hn] at hend

/-- A walk from an entry point to an actions node has an edge. -/
theorem IsWalkBetween.exists_length_eq (hdistinct : q.nodeIds.Nodup) {entry m : Node}
    (hentry : entry ∈ q.entryPoints) (hm : m ∈ q.nodes) (hactions : m.isActions = true)
    (hwalk : q.IsWalkBetween entry.id ids m.id) : ∃ n, ids.length = n + 2 := by
  obtain ⟨-, hhead, hlast⟩ := hwalk
  match ids with
  | [c] =>
    -- a single ID would make the entry point an actions node
    obtain rfl : c = entry.id := by simpa using hhead
    have hid : entry.id = m.id := by simpa using hlast
    obtain ⟨hmem, hstart⟩ := List.mem_filter.1 hentry
    have hsame : entry = m := List.inj_on_of_nodup_map hdistinct hmem hm hid
    rw [← hsame, Node.isActions_of_isEntryPoint hstart] at hactions
    cases hactions
  | c :: d :: rest => exact ⟨rest.length, rfl⟩

end Quest

namespace Findings

open Quest

/-- What the rule about the start of flows reports about one entry point. -/
def startFindings (q : Quest) (entry : Node) : List Finding :=
  match q.graph.nearest? q.node? (·.isActions) entry.outgoing with
  | none => [⟨.noActions, some entry.id⟩]
  | some first =>
    first.findIf (!first.writesJournal) .startWithoutJournal ++
      first.findIf (!first.describesStage) .startWithoutStage

theorem journalAtStart_eq (q : Quest) :
    journalAtStart q = q.entryPoints.flatMap (startFindings q) := rfl

/-- **Forward**: what is found about an entry point is what should be. -/
theorem startReport (hdistinct : q.nodeIds.Nodup) {entry : Node} (hentry : entry ∈ q.entryPoints) :
    q.StartReport entry (startFindings q entry) := by
  have hmem : entry ∈ q.nodes := (List.mem_filter.1 hentry).1
  rw [startFindings]
  cases hsearch : q.graph.nearest? q.node? (·.isActions) entry.outgoing with
  | none =>
    -- a walk to an actions node would give steps to it, and the search would have ended there
    refine .unreached fun m hm hactions ids hwalk => ?_
    obtain ⟨n, hlength⟩ := hwalk.exists_length_eq hdistinct hentry hm hactions
    have hknown : m.id ∈ q.nodeIds := mem_nodeIds.2 ⟨m, hm, rfl⟩
    have hsteps := (inKnownSteps_iff hdistinct hmem hknown).2 ⟨ids, hlength, hwalk⟩
    have hnode : q.node? m.id = some m := (node?_eq_some_iff hdistinct).2 ⟨hm, rfl⟩
    have hnone := Adjacency.nearest?_eq_none_iff.1 hsearch n m.id m hsteps hnode
    rw [hactions] at hnone
    cases hnone
  | some first =>
    obtain ⟨hactions, d, id, hsteps, hnode, hleast⟩ := Adjacency.nearest?_spec hsearch
    obtain ⟨hfirst, rfl⟩ := (node?_eq_some_iff hdistinct).1 hnode
    have hknown : first.id ∈ q.nodeIds := mem_nodeIds.2 ⟨first, hfirst, rfl⟩
    obtain ⟨ids, hlength, hwalk⟩ := (inKnownSteps_iff hdistinct hmem hknown).1 hsteps
    have hreport : q.FirstActions entry first := by
      refine ⟨hfirst, hactions, ids, hwalk, fun m hm hactions' ids' hwalk' => ?_⟩
      -- every walk has two IDs more than steps, so fewer IDs would be fewer steps
      obtain ⟨n, hlength'⟩ := hwalk'.exists_length_eq hdistinct hentry hm hactions'
      have hknown' : m.id ∈ q.nodeIds := mem_nodeIds.2 ⟨m, hm, rfl⟩
      have hsteps' := (inKnownSteps_iff hdistinct hmem hknown').2 ⟨ids', hlength', hwalk'⟩
      have hnode' : q.node? m.id = some m := (node?_eq_some_iff hdistinct).2 ⟨hm, rfl⟩
      have hle : d ≤ n := hleast n m.id m hsteps' hnode' hactions'
      omega
    have hmissing := StartReport.opened first hreport
    cases hjournal : first.writesJournal <;> cases hstage : first.describesStage <;>
      simpa [Node.findIf, hjournal, hstage] using hmissing

/-- An entry point is named only for its own flow, and then as one without actions. -/
theorem noActions_mem_journalAtStart_iff (hdistinct : q.nodeIds.Nodup) {entry : Node}
    (hentry : entry ∈ q.entryPoints) :
    ⟨.noActions, some entry.id⟩ ∈ journalAtStart q ↔ q.NoActionsFrom entry := by
  rw [journalAtStart_eq, List.mem_flatMap]
  constructor
  · rintro ⟨other, hother, hfound⟩
    have hreport := startReport hdistinct hother
    generalize startFindings q other = found at hreport hfound
    cases hreport with
    | unreached hnone =>
      have hid : entry.id = other.id := by simpa using hfound
      have hsame : entry = other := List.inj_on_of_nodup_map hdistinct
        (List.mem_filter.1 hentry).1 (List.mem_filter.1 hother).1 hid
      rwa [hsame]
    | opened first hfirst =>
      -- of a flow that has an actions node other problems are reported
      cases hjournal : first.writesJournal <;> cases hstage : first.describesStage <;>
        simp [hjournal, hstage] at hfound
  · intro hnone
    refine ⟨entry, hentry, ?_⟩
    have hreport := startReport hdistinct hentry
    generalize startFindings q entry = found at hreport ⊢
    cases hreport with
    | unreached => exact List.mem_singleton_self _
    | opened first hfirst =>
      obtain ⟨ids, hwalk, -⟩ := hfirst.nearest
      exact absurd hwalk (hnone first hfirst.mem hfirst.isActions ids)

/-! ## Backward: chains and walks -/

/-- One step of the search backward: from an ID to one that leads to it and has an actions node. -/
abbrev StepBack (q : Quest) : Int → Int → Prop :=
  q.graph.predecessors.EdgeInto fun id => (q.node? id).any (·.isActions)

theorem any_isActions_iff (hdistinct : q.nodeIds.Nodup) :
    (q.node? a).any (·.isActions) = true ↔ ∃ m ∈ q.nodes, m.id = a ∧ m.isActions = true := by
  rw [Option.any_eq_true]
  simp only [node?_eq_some_iff hdistinct, and_assoc]

/-- From the end of a chain of actions nodes, stepping back leads to its start. -/
theorem stepsBack_of_isChain (hdistinct : q.nodeIds.Nodup) (hchain : ids.IsChain q.LeadsTo)
    (hactions : ∀ id ∈ ids, ∃ m ∈ q.nodes, m.id = id ∧ m.isActions = true)
    (hhead : ids.head? = some a) (hlast : ids.getLast? = some b) :
    ReflTransGen (StepBack q) b a := by
  induction ids generalizing a with
  | nil => cases hhead
  | cons c ids ih =>
    obtain rfl : c = a := by simpa using hhead
    obtain ⟨hc, hactions⟩ := List.forall_mem_cons.1 hactions
    cases ids with
    | nil =>
      obtain rfl : c = b := by simpa using hlast
      exact .refl
    | cons d ids =>
      obtain ⟨hedge, hrest⟩ := List.isChain_cons_cons.1 hchain
      rw [List.getLast?_cons_cons] at hlast
      have hback := ih hrest hactions rfl hlast
      exact hback.tail ⟨edge_predecessors_graph.2 hedge, (any_isActions_iff hdistinct).2 hc⟩

/-- Where stepping back from an actions node leads, a chain of actions nodes comes from. -/
theorem exists_isChain_of_stepsBack (hdistinct : q.nodeIds.Nodup)
    (hback : ReflTransGen (StepBack q) b a)
    (hb : ∃ m ∈ q.nodes, m.id = b ∧ m.isActions = true) :
    ∃ ids : List Int, ids.IsChain q.LeadsTo ∧ ids.head? = some a ∧ ids.getLast? = some b ∧
      ∀ id ∈ ids, ∃ m ∈ q.nodes, m.id = id ∧ m.isActions = true := by
  induction hback with
  | refl => exact ⟨[b], .singleton b, rfl, rfl, by simpa using hb⟩
  | @tail c a _ hstep ih =>
    obtain ⟨ids, hchain, hhead, hlast, hactions⟩ := ih
    have hedge : q.LeadsTo a c := edge_predecessors_graph.1 hstep.1
    refine ⟨a :: ids, List.isChain_cons.2 ⟨?_, hchain⟩, rfl, ?_, ?_⟩
    · intro d hd
      rw [hhead] at hd
      cases hd
      exact hedge
    · rw [List.getLast?_cons, hlast]
      rfl
    · exact List.forall_mem_cons.2 ⟨(any_isActions_iff hdistinct).1 hstep.2, hactions⟩

/-- **Backward**: the search finds a journal entry exactly when a walk brings one. -/
theorem journalWalk_iff (hdistinct : q.nodeIds.Nodup) {n : Node} (hmem : n ∈ q.nodes)
    (hactions : n.isActions = true) :
    (∃ ids, q.JournalWalk ids n.id) ↔
      (q.graph.predecessors.leadingTo q.node? (·.isActions) n).any (·.writesJournal) = true := by
  have hself : q.node? n.id = some n := (node?_eq_some_iff hdistinct).2 ⟨hmem, rfl⟩
  rw [Adjacency.any_leadingTo_iff hself]
  constructor
  · rintro ⟨ids, ⟨-, hchain⟩, hlast, hall, m, hm, hhead, hjournal⟩
    have hback := stepsBack_of_isChain hdistinct hchain hall hhead hlast
    exact ⟨m.id, m, hback, (node?_eq_some_iff hdistinct).2 ⟨hm, rfl⟩, hjournal⟩
  · rintro ⟨id, m, hback, hnode, hjournal⟩
    obtain ⟨hm, rfl⟩ := (node?_eq_some_iff hdistinct).1 hnode
    obtain ⟨ids, hchain, hhead, hlast, hall⟩ :=
      exists_isChain_of_stepsBack hdistinct hback ⟨n, hmem, rfl, hactions⟩
    exact ⟨ids, ⟨⟨m, hm, hhead⟩, hchain⟩, hlast, hall, m, hm, hhead, hjournal⟩

/-- What the rule about the end of flows reports about one node. -/
def endFindings (q : Quest) (n : Node) : List Finding :=
  n.findIf (n.isTerminal &&
    !(q.graph.predecessors.leadingTo q.node? (·.isActions) n).any (·.writesJournal))
    .endWithoutJournal

theorem journalAtEnd_eq (q : Quest) : journalAtEnd q = q.nodes.flatMap (endFindings q) := rfl

theorem endReport (hdistinct : q.nodeIds.Nodup) {n : Node} (hmem : n ∈ q.nodes) :
    q.EndReport n (endFindings q n) := by
  rw [endFindings]
  cases hterminal : n.isTerminal with
  | false => exact .silent fun h => absurd h (by simp [hterminal])
  | true =>
    have hwalk := journalWalk_iff hdistinct hmem (isActions_of_isTerminal hterminal)
    cases hfound : (q.graph.predecessors.leadingTo q.node? (·.isActions) n).any (·.writesJournal)
    with
    | true => exact .silent fun _ => hwalk.2 hfound
    | false =>
      refine .missing hterminal fun ids hids => ?_
      rw [hwalk.1 ⟨ids, hids⟩] at hfound
      cases hfound

theorem endWithoutJournal_mem_journalAtEnd_iff (hdistinct : q.nodeIds.Nodup) {n : Node}
    (hmem : n ∈ q.nodes) (hterminal : n.isTerminal = true) :
    ⟨.endWithoutJournal, some n.id⟩ ∈ journalAtEnd q ↔ ¬ ∃ ids, q.JournalWalk ids n.id := by
  rw [journalAtEnd_eq, List.mem_flatMap]
  constructor
  · rintro ⟨other, hother, hfound⟩
    have hreport := endReport hdistinct hother
    generalize endFindings q other = found at hreport hfound
    cases hreport with
    | missing _ hnone =>
      have hid : n.id = other.id := by simpa using hfound
      rintro ⟨ids, hwalk⟩
      exact hnone ids (hid ▸ hwalk)
    | silent => cases hfound
  · intro hnone
    refine ⟨n, hmem, ?_⟩
    have hreport := endReport hdistinct hmem
    generalize endFindings q n = found at hreport ⊢
    cases hreport with
    | missing => exact List.mem_singleton_self _
    | silent hwritten => exact absurd (hwritten hterminal) hnone

end Findings

/-! ## Both rules -/

/-- What is found member by member, in order. -/
theorem exists_reports_flatMap {α : Type} {P : α → List Finding → Prop} {f : α → List Finding}
    {xs : List α} (hreport : ∀ x ∈ xs, P x (f x)) :
    ∃ reports, xs.flatMap f = reports.flatten ∧ List.Forall₂ P xs reports :=
  ⟨xs.map f, List.flatMap_def, List.forall₂_map_right_iff.2 (List.forall₂_same.2 hreport)⟩

/-- **The rules about the journal are exact** for every quest with distinct node IDs. -/
theorem Quest.journalExact (hdistinct : q.nodeIds.Nodup) : q.JournalExact where
  ending _ hmem hterminal :=
    Findings.endWithoutJournal_mem_journalAtEnd_iff hdistinct hmem hterminal
  endings := exists_reports_flatMap fun _ hmem => Findings.endReport hdistinct hmem
  entry _ hentry := Findings.noActions_mem_journalAtStart_iff hdistinct hentry
  entries := exists_reports_flatMap fun _ hentry => Findings.startReport hdistinct hentry

/-- A quest whose flows go in circles and into nothing.  From 1 three actions nodes are nearest, and
5 is met first; from 10 there is none.  The ending at 7 has a journal entry before it, the one at 8
has not. -/
def detours : Quest where
  id := "Detours"
  nodes := [
    ⟨1, [], .entryPoint { next := [2, 9] }, []⟩,
    ⟨2, [], .dialog { next := [3, 4] } {} [], []⟩,
    ⟨3, [], .dialog { next := [2, 5, 8] } {} [], []⟩,
    ⟨4, [], .unmodelled "QuestAvailable" [3] [6] [] [], []⟩,
    ⟨5, [], .actions { next := [7] }
      [.ofValue (.ofFields [("QuestStageDescription", .ofFields [])])], []⟩,
    ⟨6, [], .actions { next := [5] } [.ofValue (.text "JournalEntry")], []⟩,
    ⟨7, [], .actions { next := [7] } [.ofValue (.text "CompleteQuest")], []⟩,
    ⟨8, [], .actions {} [.ofValue (.text "FailQuest")], []⟩,
    ⟨10, [], .entryPoint { next := [11] }, []⟩,
    ⟨11, [], .dialog { next := [11] } {} [], []⟩]

/-- What is reported about the detours tells which walks there are. -/
theorem journalExact_detours :
    detours.nodeIds.Nodup ∧ detours.JournalExact ∧
    Findings.journalAtStart detours =
      [⟨.startWithoutJournal, some 5⟩, ⟨.noActions, some 10⟩] ∧
    Findings.journalAtEnd detours = [⟨.endWithoutJournal, some 8⟩] ∧
    (¬ ∃ ids, detours.JournalWalk ids 8) ∧ ∃ ids, detours.JournalWalk ids 7 := by
  have hdistinct : detours.nodeIds.Nodup := by decide
  have hexact := Quest.journalExact hdistinct
  have hstart : Findings.journalAtStart detours =
      [⟨.startWithoutJournal, some 5⟩, ⟨.noActions, some 10⟩] := by decide +kernel
  have hend : Findings.journalAtEnd detours = [⟨.endWithoutJournal, some 8⟩] := by
    decide +kernel
  have hnone := hexact.ending (detours.nodes[7]) (by decide) (by decide)
  have hsome := hexact.ending (detours.nodes[6]) (by decide) (by decide)
  rw [hend] at hnone hsome
  refine ⟨hdistinct, hexact, hstart, hend, hnone.1 (by decide), ?_⟩
  by_contra hmissing
  exact absurd (hsome.2 hmissing) (by decide)

end QuestFlow

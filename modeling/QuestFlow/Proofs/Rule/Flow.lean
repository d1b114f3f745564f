import QuestFlow.Proofs.Rule.Silence

/-!
# What a clean report says about the flow

No rule looks for a way from an entry point to a node, and none follows a flow to its end.  Both are
still guaranteed for a quest without issues, by several rules together.

1. **The facts** — `Quest.Sound` collects what the silent rules leave behind: distinct IDs, edges to
   nodes that exist, no cycle, every node led to, and endings where a flow ends.
2. **Every node is reached** — `reached_from_entryPoint`.  A node that is no entry point is led to
   by another node; going back in this way comes to an end, since there is no cycle, and it can only
   end at an entry point.
3. **Every walk is a flow** — `walk_of_no_issues`.  A walk never leaves the quest and never comes by
   an ID twice, so it is no longer than the quest; a node with an ending stops it, and an actions
   node where it can go no further has ended the quest, once.

Walks are stated over `Quest.LeadsTo`, that is over the legal edge lists of the nodes.
-/

namespace QuestFlow.Quest

open Relation

variable {q : Quest} {context : RuleContext}

/-- A walk along legal edges: it starts at a node, and each ID leads to the next. -/
structure IsWalk (q : Quest) (ids : List Int) : Prop where
  starts : ∃ n ∈ q.nodes, ids.head? = some n.id
  leads : ids.IsChain q.LeadsTo

instance (q : Quest) : DecidableRel q.LeadsTo := fun a b =>
  inferInstanceAs (Decidable (∃ n ∈ q.nodes, n.id = a ∧ b ∈ n.outgoing))

instance (q : Quest) (ids : List Int) : Decidable (q.IsWalk ids) :=
  decidable_of_iff ((∃ n ∈ q.nodes, ids.head? = some n.id) ∧ ids.IsChain q.LeadsTo)
    ⟨fun h => ⟨h.1, h.2⟩, fun h => ⟨h.1, h.2⟩⟩

/-- What the silent rules guarantee about the flow. -/
structure Sound (q : Quest) : Prop where
  distinct : q.nodeIds.Nodup
  target_mem : ∀ a b, q.LeadsTo a b → b ∈ q.nodeIds
  acyclic : ∀ a, ¬ q.graph.OnCycle a
  led : ∀ n ∈ q.nodes, n.isEntryPoint = false → ∃ a, q.LeadsTo a n.id
  ending : ∀ n ∈ q.nodes, n.isActions = true →
    (n.isTerminal = true → n.outgoing = []) ∧ (n.isTerminal = false → n.outgoing ≠ []) ∧
      n.endings.length ≤ 1

/-- A quest without issues is sound; the rules about the journal, the shapes and the references have
no part in it. -/
theorem sound_of_no_issues (hclean : q.issues context = []) : q.Sound where
  distinct := Findings.uniqueIds_eq_nil_iff.1 (findings_eq_nil_of_issues hclean .uniqueIds rfl)
  target_mem _ _ hedge :=
    Findings.target_mem_of_edges (findings_eq_nil_of_issues hclean .edges rfl) hedge
  acyclic := Findings.acyclic_eq_nil_iff.1 (findings_eq_nil_of_issues hclean .acyclic rfl)
  led := Findings.referenced_eq_nil_iff.1 (findings_eq_nil_of_issues hclean .referenced rfl)
  ending := Findings.endings_eq_nil_iff.1 (findings_eq_nil_of_issues hclean .endings rfl)

/-- A quest without issues that has a node of each variant, two endings, and a node that two ways
lead to. -/
def crossroads : Quest where
  id := "Crossroads"
  nodes := [
    ⟨1, [], .entryPoint { next := [2] }, []⟩,
    ⟨2, [], .actions { next := [3] } [.ofValue (.text "JournalEntry"),
      .ofValue (.ofFields [("QuestStageDescription", .ofFields [])])], []⟩,
    ⟨3, [], .dialog { next := [4] } {} [], []⟩,
    ⟨4, [], .decision .decision {} [{ next := [5] }, { next := [6] }] [], []⟩,
    ⟨5, [.ofValue .null], .conditionBranch none [7] [8] [], []⟩,
    ⟨6, [], .unmodelled "QuestAvailable" [7] [] [] [], []⟩,
    ⟨7, [], .actions {} [.ofValue (.text "JournalEntry"), .ofValue (.text "CompleteQuest")], []⟩,
    ⟨8, [], .questProgress { next := [9] } [], []⟩,
    ⟨9, [], .actions {} [.ofValue (.text "JournalEntry"), .ofValue (.text "FailQuest")], []⟩]

/-- Its edges all lead to greater IDs; the other rules are asked one by one. -/
theorem issues_crossroads : crossroads.issues {} = [] := by
  have hacyclic : Findings.acyclic crossroads = [] :=
    Findings.acyclic_eq_nil_of_upward (by decide)
  have hothers : ∀ rule ∈ Rule.all, rule ≠ .acyclic → rule.findings {} crossroads = [] := by
    decide +kernel
  rw [issues_eq_nil_iff]
  intro rule _
  by_cases h : rule = .acyclic
  · rw [h]
    exact hacyclic
  · exact hothers rule (by cases rule <;> decide) h

/-! ## Every node is reached -/

/-- In a sound quest one cannot go back along legal edges for ever. -/
theorem Sound.wellFounded (h : q.Sound) : WellFounded q.LeadsTo := by
  rw [← edge_graph]
  exact Adjacency.wellFounded_edge h.acyclic

/-- **Every node of a quest without issues is an entry point or is reached from one** by a walk of
one legal edge or more. -/
theorem reached_from_entryPoint (hclean : q.issues context = []) :
    ∀ n ∈ q.nodes, n.isEntryPoint = true ∨
      ∃ entry ∈ q.nodes, entry.isEntryPoint = true ∧ TransGen q.LeadsTo entry.id n.id := by
  have hsound : q.Sound := sound_of_no_issues hclean
  -- by descent along the edges, for all nodes with the given ID at once
  suffices hall : ∀ id, ∀ n ∈ q.nodes, n.id = id → n.isEntryPoint = true ∨
      ∃ entry ∈ q.nodes, entry.isEntryPoint = true ∧ TransGen q.LeadsTo entry.id id by
    intro n hmem
    exact hall n.id n hmem rfl
  intro id
  induction id using hsound.wellFounded.induction with
  | _ id ih =>
    intro n hmem hid
    cases hentry : n.isEntryPoint with
    | true => exact .inl rfl
    | false =>
      right
      obtain ⟨a, hedge⟩ := hsound.led n hmem hentry
      rw [hid] at hedge
      obtain ⟨m, hm, hma⟩ := mem_nodeIds.1 hedge.source_mem
      rcases ih a hedge m hm hma with hstart | ⟨entry, hentry, hstart, hreach⟩
      · exact ⟨m, hm, hstart, .single (hma ▸ hedge)⟩
      · exact ⟨entry, hentry, hstart, hreach.tail hedge⟩

/-- All nodes of the crossroads are reached, whatever variant they have. -/
theorem crossroads_reached_from_entryPoint :
    crossroads.issues {} = [] ∧
    ∀ n ∈ crossroads.nodes, n.isEntryPoint = true ∨
      ∃ entry ∈ crossroads.nodes, entry.isEntryPoint = true ∧
        TransGen crossroads.LeadsTo entry.id n.id :=
  ⟨issues_crossroads, reached_from_entryPoint issues_crossroads⟩

/-! ## Every walk is a flow -/

/-- A chain of legal edges that starts in the quest stays in it. -/
theorem Sound.mem_nodeIds_of_isChain (h : q.Sound) {ids : List Int} (hchain : ids.IsChain q.LeadsTo)
    (hstart : ∀ a ∈ ids.head?, a ∈ q.nodeIds) : ∀ id ∈ ids, id ∈ q.nodeIds := by
  induction ids with
  | nil => exact fun id hid => absurd hid List.not_mem_nil
  | cons a ids ih =>
    obtain ⟨hnext, hrest⟩ := List.isChain_cons.1 hchain
    refine List.forall_mem_cons.2 ⟨hstart a rfl, ih hrest fun b hb => ?_⟩
    exact h.target_mem a b (hnext b hb)

theorem Sound.mem_nodeIds_of_isWalk (h : q.Sound) {ids : List Int} (hwalk : q.IsWalk ids) :
    ∀ id ∈ ids, id ∈ q.nodeIds := by
  obtain ⟨⟨n, hmem, hhead⟩, hchain⟩ := hwalk
  refine h.mem_nodeIds_of_isChain hchain fun a ha => ?_
  rw [hhead] at ha
  cases ha
  exact mem_nodeIds.2 ⟨n, hmem, rfl⟩

theorem Sound.nodup_of_isWalk (h : q.Sound) {ids : List Int} (hwalk : q.IsWalk ids) :
    ids.Nodup := by
  have hchain := hwalk.leads
  rw [← edge_graph] at hchain
  exact Adjacency.nodup_of_isChain h.acyclic hchain

theorem Sound.length_le_of_isWalk (h : q.Sound) {ids : List Int} (hwalk : q.IsWalk ids) :
    ids.length ≤ q.nodes.length := by
  have hsub : ids.Subperm q.nodeIds :=
    (h.nodup_of_isWalk hwalk).subperm (h.mem_nodeIds_of_isWalk hwalk)
  simpa [nodeIds] using hsub.length_le

/-- Only an actions node has an ending. -/
theorem isActions_of_isTerminal {n : Node} (hterminal : n.isTerminal = true) :
    n.isActions = true := by
  obtain ⟨id, conditions, body, extra⟩ := n
  cases body with
  | actions => rfl
  | _ => cases hterminal

/-- A node with an ending stops every walk. -/
theorem Sound.getLast?_of_isTerminal (h : q.Sound) {ids : List Int} (hwalk : q.IsWalk ids)
    {n : Node} (hmem : n ∈ q.nodes) (hterminal : n.isTerminal = true) (hid : n.id ∈ ids) :
    ids.getLast? = some n.id := by
  have hstop : n.outgoing = [] := (h.ending n hmem (isActions_of_isTerminal hterminal)).1 hterminal
  obtain ⟨before, after, rfl⟩ := List.append_of_mem hid
  cases after with
  | nil => exact List.getLast?_concat
  | cons b after =>
    obtain ⟨_, hchain, _⟩ := List.isChain_append.1 hwalk.leads
    have hedge : q.LeadsTo n.id b := (List.isChain_cons_cons.1 hchain).1
    rw [leadsTo_iff_of_mem h.distinct hmem, hstop] at hedge
    exact absurd hedge List.not_mem_nil

/-- An edge from its last ID extends a walk. -/
theorem IsWalk.concat {ids : List Int} (hwalk : q.IsWalk ids) {a b : Int}
    (hlast : ids.getLast? = some a) (hedge : q.LeadsTo a b) : q.IsWalk (ids ++ [b]) := by
  obtain ⟨⟨n, hmem, hhead⟩, hchain⟩ := hwalk
  refine ⟨⟨n, hmem, by simp [hhead]⟩, hchain.append (.singleton b) ?_⟩
  rintro x hx y ⟨⟩
  obtain rfl : a = x := Option.some.inj (hlast.symm.trans hx)
  exact hedge

/-- Where a walk can go no further, an actions node has ended the quest, and once. -/
theorem Sound.length_endings_of_stuck (h : q.Sound) {ids : List Int} (hwalk : q.IsWalk ids)
    (hstuck : ∀ next, ¬ q.IsWalk (ids ++ [next])) {n : Node} (hmem : n ∈ q.nodes)
    (hactions : n.isActions = true) (hlast : ids.getLast? = some n.id) : n.endings.length = 1 := by
  obtain ⟨_, hcontinues, honce⟩ := h.ending n hmem hactions
  have hnone : n.outgoing = [] := by
    by_contra hsome
    obtain ⟨b, hb⟩ := List.exists_mem_of_ne_nil _ hsome
    exact hstuck b (hwalk.concat hlast ((leadsTo_iff_of_mem h.distinct hmem).2 hb))
  have hterminal : n.isTerminal = true := by
    by_contra hgoes
    exact hcontinues (by simpa using hgoes) hnone
  have hpos : 0 < n.endings.length := by
    rw [Node.isTerminal] at hterminal
    exact List.length_pos_of_ne_nil (by simpa using hterminal)
  omega

/-- **Every walk of a quest without issues**, from whatever node: each ID on it is the ID of one
node, counted in the document; no ID comes twice, so the walk is no longer than the quest; a node
with an ending can only be its last; and if it cannot be extended and its last node is an actions
node, that node ends the quest exactly once. -/
theorem walk_of_no_issues (hclean : q.issues context = []) {ids : List Int} (hwalk : q.IsWalk ids) :
    (∀ id ∈ ids, q.nodeIds.count id = 1) ∧
    ids.Nodup ∧ ids.length ≤ q.nodes.length ∧
    (∀ n ∈ q.nodes, n.isTerminal = true → n.id ∈ ids → ids.getLast? = some n.id) ∧
    ((∀ next, ¬ q.IsWalk (ids ++ [next])) → ∀ n ∈ q.nodes, n.isActions = true →
      ids.getLast? = some n.id → n.endings.length = 1) := by
  have hsound : q.Sound := sound_of_no_issues hclean
  refine ⟨fun id hid => ?_, hsound.nodup_of_isWalk hwalk, hsound.length_le_of_isWalk hwalk, ?_, ?_⟩
  · exact List.count_eq_one_of_mem hsound.distinct (hsound.mem_nodeIds_of_isWalk hwalk id hid)
  · intro n hmem hterminal hid
    exact hsound.getLast?_of_isTerminal hwalk hmem hterminal hid
  · intro hstuck n hmem hactions hlast
    exact hsound.length_endings_of_stuck hwalk hstuck hmem hactions hlast

/-- The longest walk through the crossroads, to its second ending. -/
theorem crossroads_walk_to_failure :
    crossroads.issues {} = [] ∧ crossroads.IsWalk [1, 2, 3, 4, 5, 8, 9] ∧
    (∀ id ∈ [1, 2, 3, 4, 5, 8, 9], crossroads.nodeIds.count id = 1) ∧
    [1, 2, 3, 4, 5, 8, 9].length ≤ crossroads.nodes.length ∧
    ((∀ next, ¬ crossroads.IsWalk ([1, 2, 3, 4, 5, 8, 9] ++ [next])) →
      ∀ n ∈ crossroads.nodes, n.isActions = true →
        [1, 2, 3, 4, 5, 8, 9].getLast? = some n.id → n.endings.length = 1) := by
  have hwalk : crossroads.IsWalk [1, 2, 3, 4, 5, 8, 9] := by decide
  obtain ⟨honce, _, hlength, _, hending⟩ := walk_of_no_issues issues_crossroads hwalk
  exact ⟨issues_crossroads, hwalk, honce, hlength, hending⟩

end QuestFlow.Quest

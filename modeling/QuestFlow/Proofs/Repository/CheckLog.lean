import QuestFlow.Proofs.Log.Context
import QuestFlow.Proofs.Log.Entry
import QuestFlow.Proofs.Repository.BreakingOff
import QuestFlow.Proofs.Rule.Silence

/-!
# The log of a check

While a quest is checked, everything that is logged should name the quest and the file it comes
from, and afterwards nothing should.  Of the two promises of naming, one is kept and one is not
always.

1. **The lines about a quest** are `Quest.logLines`: what is let through and can be written of the
   events of checking it, as entries.  A log file that is open gets these and one line about all
   quests (`map_entry_checkQuests`), or a first part of them if the check breaks off.
2. **The ID** is in every line (`Quest.id_of_logLines`): the only event that names a quest by itself
   names this one.
3. **The file** is in every line but one.  The event about a cycle calls the two ends of an edge its
   source and its target, so its own source hides the file (`Quest.source_of_mem_logLines`).  The
   file is in all lines just when that event leaves no line (`Quest.source_of_logLines_iff`): the
   quest has no cycle, the log does not let the event through, or an end of the edge cannot be
   written.
4. **Afterwards** everything is bound as before, whatever is done while a quest is at hand, and also
   when it breaks off.
-/

namespace QuestFlow

variable {r : Recorder} {context : RuleContext} {q : Quest}

/-! ## The lines about a quest -/

/-- The event about a cycle. -/
def cycleEvent (source target : Int) : Event :=
  Source.cycleSearch.event .debug "cycle_detected"
    [("source", .int source), ("target", .int target)]

/-- Whether the log lets events about cycles through. -/
def Recorder.hearsCycles (r : Recorder) : Bool :=
  r.passes (Source.cycleSearch.event .debug "cycle_detected" [])

namespace Quest

/-- The lines that checking a quest adds to a log file. -/
def logLines (r : Recorder) (context : RuleContext) (q : Quest) : List Value :=
  ((q.spokenEvents context).filter r.keeps).map Recorder.entry

/-- The event with which checking a quest ends. -/
def validatedEvent (context : RuleContext) (q : Quest) : Event :=
  Source.questRules.event .debug "quest_validated"
    [("quest_id", .text q.id), ("issues", .int (q.issues context).length)]

/-- What can be logged while a quest is checked: an edge that closes a cycle, and that the quest was
validated. -/
theorem mem_spokenEvents_iff {e : Event} : e ∈ q.spokenEvents context ↔
    (∃ source target, q.graph.closingEdge? q.nodeIds = some (source, target) ∧
      e = (cycleEvent source target).inContext (questContext q.id q.source)) ∨
    e = (q.validatedEvent context).inContext (questContext q.id q.source) := by
  rw [spokenEvents, checkEvents]
  cases hedge : q.graph.closingEdge? q.nodeIds with
  | none => simp [validatedEvent]
  | some edge =>
    obtain ⟨source, target⟩ := edge
    simp [validatedEvent, cycleEvent]

/-- There is an edge that closes a cycle just when there is a cycle. -/
theorem closingEdge?_eq_none_iff :
    q.graph.closingEdge? q.nodeIds = none ↔ ∀ a, ¬ q.graph.OnCycle a := by
  rw [← Findings.acyclic_eq_nil_iff, Findings.acyclic, Adjacency.hasCycle]
  cases q.graph.closingEdge? q.nodeIds <;> simp

/-- An edge that closes a cycle starts at a node of the quest. -/
theorem source_mem_of_closingEdge? {source target : Int}
    (hedge : q.graph.closingEdge? q.nodeIds = some (source, target)) : source ∈ q.nodeIds :=
  (edge_graph_iff.1 (Adjacency.closingEdge?_eq_some hedge).1).source_mem

/-! ## What the lines say -/

/-- None of the events uses a key of the recorder's, or one key twice. -/
theorem nodup_keys_spokenEvents {e : Event} (he : e ∈ q.spokenEvents context) :
    (Recorder.ownKeys ++ e.context.map (·.1)).Nodup := by
  rcases mem_spokenEvents_iff.1 he with ⟨source, target, -, rfl⟩ | rfl
  · cases q.source <;> exact of_decide_eq_true rfl
  · cases q.source <;> exact of_decide_eq_true rfl

/-- A line says under each other key what its event says. -/
theorem field?_of_mem_logLines {line : Value} (hline : line ∈ q.logLines r context) :
    ∃ e ∈ q.spokenEvents context, r.keeps e = true ∧ ∀ key, key ∉ Recorder.ownKeys →
      line.field? key = (e.context.lookup key).map Json.asRead := by
  obtain ⟨e, he, rfl⟩ := List.mem_map.1 hline
  obtain ⟨he, hkept⟩ := List.mem_filter.1 he
  exact ⟨e, he, hkept, fun key hkey => Recorder.field?_entry (nodup_keys_spokenEvents he) hkey⟩

/-- **Every line names the quest.** -/
theorem id_of_logLines {line : Value} (hline : line ∈ q.logLines r context) :
    line.field? "quest_id" = some (.text q.id) := by
  obtain ⟨e, he, -, hfield⟩ := field?_of_mem_logLines hline
  rw [hfield _ (by decide)]
  rcases mem_spokenEvents_iff.1 he with ⟨source, target, -, rfl⟩ | rfl
  · rw [Event.lookup_inContext]
    rfl
  · rw [Event.lookup_inContext]
    rfl

/-- The event about a cycle leaves a line just if it is let through and both ends can be written. -/
theorem keeps_cycleEvent_iff {source target : Int} :
    r.keeps ((cycleEvent source target).inContext (questContext q.id q.source)) = true ↔
      r.hearsCycles = true ∧ IntegerText.isWritable source = true ∧
        IntegerText.isWritable target = true := by
  have hnodup : (Recorder.ownKeys ++ ((cycleEvent source target).inContext
      (questContext q.id q.source)).context.map (·.1)).Nodup := by
    cases q.source <;> exact of_decide_eq_true rfl
  have hpasses : r.passes ((cycleEvent source target).inContext (questContext q.id q.source)) =
      r.hearsCycles := rfl
  rw [Recorder.keeps, hpasses, Recorder.isWritable_eq hnodup, Bool.and_eq_true]
  cases q.source <;>
    simp [cycleEvent, Event.inContext, Source.event, questContext, Json.isWritable]

/-- **The file is named, or hidden by a cycle**: a line about a quest that comes from a file names
the file, or it is about a cycle and has one of the nodes in that place. -/
theorem source_of_mem_logLines {p : Path} (hsource : q.source = some p) {line : Value}
    (hline : line ∈ q.logLines r context) :
    line.field? "source" = some (.text p.text) ∨
      ∃ source target, q.graph.closingEdge? q.nodeIds = some (source, target) ∧
        line.field? "source" = some (.int source) ∧ r.hearsCycles = true ∧
        IntegerText.isWritable source = true ∧ IntegerText.isWritable target = true := by
  obtain ⟨e, he, hkept, hfield⟩ := field?_of_mem_logLines hline
  rw [hfield _ (by decide)]
  rcases mem_spokenEvents_iff.1 he with ⟨source, target, hedge, rfl⟩ | rfl
  · refine .inr ⟨source, target, hedge, ?_, keeps_cycleEvent_iff.1 hkept⟩
    rw [Event.lookup_inContext]
    rfl
  · left
    rw [Event.lookup_inContext, hsource]
    rfl

/-- A cycle whose event leaves a line has a line that names no file. -/
theorem exists_logLine_of_closingEdge {source target : Int}
    (hedge : q.graph.closingEdge? q.nodeIds = some (source, target))
    (hhears : r.hearsCycles = true) (hsource : IntegerText.isWritable source = true)
    (htarget : IntegerText.isWritable target = true) :
    ∃ line ∈ q.logLines r context, ∃ id, line.field? "source" = some (.int id) := by
  have he : (cycleEvent source target).inContext (questContext q.id q.source) ∈
      q.spokenEvents context := mem_spokenEvents_iff.2 (.inl ⟨source, target, hedge, rfl⟩)
  have hkept := (keeps_cycleEvent_iff (q := q)).2 ⟨hhears, hsource, htarget⟩
  refine ⟨_, List.mem_map_of_mem (List.mem_filter.2 ⟨he, hkept⟩), source, ?_⟩
  rw [Recorder.field?_entry (nodup_keys_spokenEvents he) (by decide), Event.lookup_inContext]
  rfl

/-- Whether an end of the edge that closes a cycle cannot be written. -/
def HidesCycle (q : Quest) : Prop :=
  ∃ source target, q.graph.closingEdge? q.nodeIds = some (source, target) ∧
    ¬ (IntegerText.isWritable source = true ∧ IntegerText.isWritable target = true)

/-- **Exactly then** do all lines name the file. -/
theorem source_of_logLines_iff {p : Path} (hsource : q.source = some p) :
    (∀ line ∈ q.logLines r context, line.field? "source" = some (.text p.text)) ↔
      (∀ a, ¬ q.graph.OnCycle a) ∨ r.hearsCycles = false ∨ q.HidesCycle := by
  constructor
  · intro hall
    by_contra hnot
    simp only [not_or, not_forall, not_not, Bool.not_eq_false] at hnot
    obtain ⟨⟨a, hcycle⟩, hhears, hshown⟩ := hnot
    cases hedge : q.graph.closingEdge? q.nodeIds with
    | none => exact absurd hcycle (closingEdge?_eq_none_iff.1 hedge a)
    | some edge =>
      obtain ⟨source, target⟩ := edge
      have hends : IntegerText.isWritable source = true ∧ IntegerText.isWritable target = true :=
        Decidable.not_not.1 fun hends => hshown ⟨source, target, hedge, hends⟩
      have hcycleLine : ∃ line ∈ q.logLines r context, ∃ id,
          line.field? "source" = some (.int id) :=
        exists_logLine_of_closingEdge hedge hhears hends.1 hends.2
      obtain ⟨line, hline, id, hid⟩ := hcycleLine
      have hboth := (hall line hline).symm.trans hid
      cases hboth
  · intro hfree line hline
    rcases source_of_mem_logLines hsource hline with
      hnamed | ⟨source, target, hedge, -, hhears, hends⟩
    · exact hnamed
    · rcases hfree with hfree | hfree | ⟨source', target', hedge', hunwritable⟩
      · exact absurd (Adjacency.closingEdge?_eq_some hedge).2.1 (hfree target)
      · rw [hfree] at hhears
        cases hhears
      · rw [hedge] at hedge'
        cases hedge'
        exact absurd hends hunwritable

end Quest

/-! ## The whole check -/

/-- The line about all quests, if it leaves one. -/
def sharedLines (r : Recorder) (quests : List Quest) (locales : List String) : List Value :=
  ((sharedEvents quests locales).filter r.keeps).map Recorder.entry

/-- The events of checking each quest, and what surrounds them. -/
def checkJobs (context : RuleContext) (quests : List Quest) : List (Fields × List Event) :=
  quests.map fun q => (questContext q.id q.source, q.checkEvents context)

/-- What checking quests does as far as its events are concerned: each quest is checked while it is
bound, and then all of them are. -/
def checkScript (quests : List Quest) (catalog : Catalog) (settings : Settings) : Script :=
  ContextKeeper.jobs (checkJobs (settings.ruleContext catalog) quests)
    (ContextKeeper.sayAll (sharedEvents quests settings.locales) .done)

/-- The lines of a check are those of the events that leave one, quest by quest. -/
theorem map_entry_checkQuests (r : Recorder) (quests : List Quest) (catalog : Catalog)
    (settings : Settings) :
    ((checkQuests quests catalog settings).events.filter r.keeps).map Recorder.entry =
      quests.flatMap (·.logLines r (settings.ruleContext catalog)) ++
        sharedLines r quests settings.locales := by
  rw [checkQuests]
  dsimp only
  rw [List.filter_append, List.map_append, List.filter_flatMap, List.map_flatMap]
  rfl

/-- What logging has of quests that were checked. -/
structure CheckLogged (k : ContextKeeper) (r : Recorder) (t : FileTree) (place : Place)
    (content : Content) (quests : List Quest) (catalog : Catalog) (settings : Settings) : Prop where
  /-- the log file gets the lines of the quests one after the other, and then one about all -/
  file : FileTree.entry? (r.recordAll t (checkQuests quests catalog settings).events).2 place =
    some (.file { content with
      log := content.log ++ (quests.flatMap (·.logLines r (settings.ruleContext catalog)) ++
        sharedLines r quests settings.locales) })
  /-- every line about a quest names it -/
  id : ∀ q ∈ quests, ∀ line ∈ q.logLines r (settings.ruleContext catalog),
    line.field? "quest_id" = some (.text q.id)
  /-- and all of them name its file, unless a cycle is reported among them -/
  source : ∀ q ∈ quests, ∀ p, q.source = some p →
    ((∀ line ∈ q.logLines r (settings.ruleContext catalog),
        line.field? "source" = some (.text p.text)) ↔
      (∀ a, ¬ q.graph.OnCycle a) ∨ r.hearsCycles = false ∨ q.HidesCycle)
  /-- in whose line one of the nodes stands for the file -/
  hidden : ∀ q ∈ quests, ∀ p, q.source = some p →
    ∀ line ∈ q.logLines r (settings.ruleContext catalog),
      line.field? "source" = some (.text p.text) ∨
        ∃ id ∈ q.nodeIds, line.field? "source" = some (.int id)
  /-- a check that breaks off has said a first part of all this, and one that does not has said it
  all -/
  brokenOff : (checkAll quests catalog settings).events <+:
    (checkQuests quests catalog settings).events
  ended : (∀ q ∈ quests, q.Reportable (settings.ruleContext catalog)) →
    (checkAll quests catalog settings).events = (checkQuests quests catalog settings).events
  /-- binding each quest while it is checked says just these events, in whatever is bound before -/
  said : ∀ s : k.State, List.Forall₂ Event.Alike
    (k.play (checkScript quests catalog settings) s).said
    ((checkQuests quests catalog settings).events.map (·.inContext (k.bound s)))
  /-- and leaves everything bound as it was -/
  checked : ∀ (s : k.State) (key : String),
    (k.bound (k.play (checkScript quests catalog settings) s).state).lookup key =
      (k.bound s).lookup key
  /-- so does binding a quest for any work, also for work that breaks off -/
  restored : ∀ q ∈ quests, ∀ (work : Script) (s : k.State) (key : String),
    (k.bound (k.play (.within (questContext q.id q.source) work .done) s).state).lookup key =
      (k.bound s).lookup key

/-- **What a check logs.**  Every line about a quest names the quest; all of them name its file just
when no cycle is reported in the log; and nothing of it stays bound. -/
theorem checkLogged_of_open (k : ContextKeeper) {t : FileTree} {log : OpenLog} {content : Content}
    (hopen : r.openLog = some log) (hlinked : log.linked = true)
    (hfile : t.entry? log.place = some (.file content)) (quests : List Quest) (catalog : Catalog)
    (settings : Settings) :
    CheckLogged k r t log.place content quests catalog settings where
  file := by
    rw [Recorder.entry?_recordAll hopen hlinked hfile, map_entry_checkQuests]
  id := fun q _ line hline => Quest.id_of_logLines hline
  source := fun q _ p hsource => Quest.source_of_logLines_iff hsource
  hidden := by
    intro q _ p hsource line hline
    rcases Quest.source_of_mem_logLines hsource hline with
      hnamed | ⟨source, target, hedge, hfield, -⟩
    · exact .inl hnamed
    · exact .inr ⟨source, Quest.source_mem_of_closingEdge? hedge, hfield⟩
  brokenOff := events_checkAll_prefix_checkQuests quests catalog settings
  ended := fun hall => by rw [checkAll_of_reportable hall]
  said := by
    intro s
    have hbound : ∀ key, (k.bound s).lookup key = (k.bound s).lookup key := fun _ => rfl
    have hsaid := ContextKeeper.said_jobs hbound (checkJobs (settings.ruleContext catalog) quests)
      (sharedEvents quests settings.locales)
    rw [checkJobs, List.flatMap_map] at hsaid
    exact hsaid
  checked := fun s key => k.lookup_play _ s key
  restored := fun q _ work s key => k.lookup_play _ s key

/-! ## A cycle in the log -/

/-- Binds fields in front of the others. -/
def fieldsKeeper : ContextKeeper where
  State := Fields
  bound := fun s => s
  enter := fun fields s => fields ++ s
  leave := fun fields before now =>
    (before.filter fun (key, _) => (fields.map (·.1)).contains key) ++
      now.filter fun (key, _) => !(fields.map (·.1)).contains key
  lookup_enter := fun fields s key => by rw [List.lookup_append]
  lookup_leave := by
    intro fields before now key
    rw [List.lookup_append, lookup_filter_name (fun key => (fields.map (·.1)).contains key),
      lookup_filter_name (fun key => !(fields.map (·.1)).contains key)]
    by_cases hkey : key ∈ fields.map (·.1)
    · have hin : (fields.map (·.1)).contains key = true := List.contains_iff_mem.2 hkey
      rw [if_pos hkey, if_pos hin, hin]
      simp
    · have hout : (fields.map (·.1)).contains key = false := by simpa using hkey
      rw [if_neg hkey, hout]
      simp

/-- Two dialogs that lead to each other. -/
def ring : Quest :=
  { id := "Q1", source := some ⟨.here, ["quests", "a.yaml"]⟩
    nodes :=
      [⟨1, [], .dialog { next := [2] } {} [], []⟩, ⟨2, [], .dialog { next := [1] } {} [], []⟩] }

/-- A log file that is open, and takes everything. -/
def wideRecorder : Recorder :=
  { threshold := .debug, openLog := some { place := ["logs", "debug.jsonl"] } }

/-- The tree with the log file. -/
def logTree : FileTree :=
  { here := [], entries := [(["logs"], .directory), (["logs", "debug.jsonl"], .file .empty)] }

theorem checkLogged_ring : wideRecorder.openLog = some { place := ["logs", "debug.jsonl"] } ∧
    CheckLogged fieldsKeeper wideRecorder logTree ["logs", "debug.jsonl"] .empty [ring] {} {} := by
  have hopen : wideRecorder.openLog = some { place := ["logs", "debug.jsonl"] } := rfl
  have hfile : logTree.entry? ["logs", "debug.jsonl"] = some (.file .empty) := by decide
  exact ⟨hopen, checkLogged_of_open fieldsKeeper hopen rfl hfile [ring] {} {}⟩

/-- Both lines about the ring name it, but the first has a node where its file should be. -/
theorem ring_source_hidden : ring.source = some ⟨.here, ["quests", "a.yaml"]⟩ ∧
    (FileTree.readLog (wideRecorder.recordAll logTree (checkQuests [ring] {} {}).events).2
      ⟨.here, ["logs", "debug.jsonl"]⟩).toOption.join.map
        (·.map fun line => (line.field? "quest_id", line.field? "source")) =
      some [(some (.text "Q1"), some (.int 2)),
        (some (.text "Q1"), some (.text "quests/a.yaml")), (none, none)] := by
  have hedge : ring.graph.closingEdge? ring.nodeIds = some (2, 1) := by
    have hgraph : ring.graph = [(1, [2]), (2, [1])] := by decide
    have hfrom : Adjacency.searchFrom [(1, [2]), (2, [1])] [] [1, 2] = .closed 2 1 := by
      have hone : Adjacency.successors [(1, [2]), (2, [1])] 1 = [2] := rfl
      have htwo : Adjacency.successors [(1, [2]), (2, [1])] 2 = [1] := rfl
      simp [Adjacency.searchFrom, Adjacency.search, hone, htwo]
    have hids : ring.nodeIds = [1, 2] := rfl
    rw [Adjacency.closingEdge?, hgraph, hids, hfrom]
  have hcycle : Findings.acyclic ring = [⟨.cycle, none⟩] := by
    rw [Findings.acyclic, Adjacency.hasCycle, hedge]
    rfl
  have hissues : (ring.issues {}).length = 2 := by
    have hrules : (Rule.all.filter fun rule => true || !rule.isAboutJournal) = Rule.all := by decide
    rw [Quest.issues, List.length_map, Quest.findings, hrules]
    simp only [Rule.all, List.flatMap_cons, List.flatMap_nil, Rule.findings, hcycle]
    decide +kernel
  have hquest : ring.checkEvents {} =
      [cycleEvent 2 1, Source.questRules.event .debug "quest_validated"
        [("quest_id", .text "Q1"), ("issues", .int 2)]] := by
    rw [Quest.checkEvents, hedge, hissues]
    rfl
  have hcontext : ({} : Settings).ruleContext {} = {} := rfl
  simp only [checkQuests, hcontext, List.flatMap_singleton, hquest]
  exact ⟨rfl, by decide +kernel⟩

end QuestFlow

import QuestFlow.Rule.Validation

/-!
# Each rule has problems of its own

`Problem.rule` is the rule that a problem belongs to, and a rule finds no problem but its own
(`Rule.reportedBy_findings`).  So whatever depends on the problem alone can be asked of the rule:
which findings name an entity, and which name an ID.

Findings are put together from those at single nodes, and the lemmas in `ReportedBy` follow the ways
in which rules do so.
-/

namespace QuestFlow

/-- The rule that a problem belongs to. -/
def Problem.rule : Problem → Rule
  | .repeatedId => .uniqueIds
  | .missingTarget _ _ | .selfEdge _ | .repeatedEdge _ _ => .edges
  | .noIncoming => .incoming
  | .noEntryPoint => .entryPoint
  | .endingContinues | .flowStops | .manyEndings => .endings
  | .decisionEdges _ | .deadOption _ => .decisions
  | .branchEdges | .branchUnconditional | .deadBranch => .conditionBranches
  | .strayEdges _ _ => .flatNodes
  | .cycle => .acyclic
  | .unknownPartner _ | .unknownSpeaker _ | .unknownMessageSpeaker _ | .unknownReference _ =>
    .references
  | .noActions | .startWithoutJournal | .startWithoutStage => .journalAtStart
  | .endWithoutJournal => .journalAtEnd
  | .unreferenced => .referenced

/-- All findings are about problems of the rule. -/
def ReportedBy (rule : Rule) (fs : List Finding) : Prop := ∀ f ∈ fs, f.problem.rule = rule

namespace ReportedBy

variable {α : Type} {rule : Rule} {fs gs : List Finding}

theorem nil : ReportedBy rule [] := nofun

theorem singleton {f : Finding} (h : f.problem.rule = rule) : ReportedBy rule [f] :=
  List.forall_mem_singleton.2 h

theorem append (hfs : ReportedBy rule fs) (hgs : ReportedBy rule gs) :
    ReportedBy rule (fs ++ gs) :=
  List.forall_mem_append.2 ⟨hfs, hgs⟩

theorem flatMap {xs : List α} {reports : α → List Finding} (h : ∀ x, ReportedBy rule (reports x)) :
    ReportedBy rule (xs.flatMap reports) := by
  intro f hf
  obtain ⟨x, -, hf⟩ := List.mem_flatMap.1 hf
  exact h x f hf

theorem map {xs : List α} {report : α → Finding} (h : ∀ x, (report x).problem.rule = rule) :
    ReportedBy rule (xs.map report) := by
  intro f hf
  obtain ⟨x, -, rfl⟩ := List.mem_map.1 hf
  exact h x

theorem findIf {n : Node} {wrong : Bool} {p : Problem} (h : p.rule = rule) :
    ReportedBy rule (n.findIf wrong p) := by
  rw [Node.findIf]
  split
  · exact singleton h
  · exact nil

theorem ite {holds : Prop} [Decidable holds] (hfs : ReportedBy rule fs)
    (hgs : ReportedBy rule gs) : ReportedBy rule (if holds then fs else gs) := by
  split
  · exact hfs
  · exact hgs

theorem deadOptions (n : Node) (number : Nat) (os : List DialogOption) :
    ReportedBy .decisions (Findings.deadOptions n number os) := by
  induction os generalizing number with
  | nil => exact nil
  | cons o os ih => exact (findIf rfl).append (ih _)

theorem unknownSpeakers (catalog : Catalog) (player : String) (n : Node) :
    ReportedBy .references (Findings.unknownSpeakers catalog player n) := by
  refine append ?_ (.flatMap fun m => .findIf rfl)
  split
  · exact (findIf rfl).append (.findIf rfl)
  · exact nil

end ReportedBy

/-- **A rule finds no problem but its own.** -/
theorem Rule.reportedBy_findings (rule : Rule) (context : RuleContext) (q : Quest) :
    ReportedBy rule (rule.findings context q) := by
  cases rule with
  | uniqueIds =>
    intro f hf
    obtain ⟨⟨id, again⟩, -, hreport⟩ := List.mem_filterMap.1 hf
    obtain ⟨-, hreport⟩ := Option.ite_none_right_eq_some.1 hreport
    obtain rfl := Option.some.inj hreport
    rfl
  | edges =>
    refine .flatMap fun n => .flatMap fun field => .flatMap fun ⟨target, again⟩ => ?_
    intro f hf
    obtain ⟨p, hp, rfl⟩ := List.mem_map.1 hf
    simp only [Findings.targetProblems, List.mem_append, List.mem_ite_nil_left,
      List.mem_ite_nil_right, List.mem_singleton] at hp
    obtain (⟨-, rfl⟩ | ⟨-, rfl⟩) | ⟨-, rfl⟩ := hp <;> rfl
  | incoming | referenced => exact .flatMap fun n => .findIf rfl
  | entryPoint | acyclic => exact .ite (.singleton rfl) .nil
  | endings =>
    refine .flatMap fun n => .ite ?_ .nil
    exact .append (.append (.findIf rfl) (.findIf rfl)) (.findIf rfl)
  | decisions =>
    refine .flatMap fun n => ?_
    split
    · exact .append (.findIf rfl) (.deadOptions _ _ _)
    · exact .nil
  | conditionBranches =>
    refine .flatMap fun n => ?_
    split
    · exact .append (.append (.findIf rfl) (.findIf rfl)) (.findIf rfl)
    · exact .nil
  | flatNodes =>
    refine .flatMap fun n => ?_
    split
    · exact .map fun _ => rfl
    · exact .nil
  | references =>
    exact .flatMap fun n => .append (.unknownSpeakers _ _ n) (.flatMap fun r => .findIf rfl)
  | journalAtStart =>
    refine .flatMap fun n => ?_
    split
    · exact .singleton rfl
    · exact .append (.findIf rfl) (.findIf rfl)
  | journalAtEnd => exact .flatMap fun n => .findIf rfl

end QuestFlow

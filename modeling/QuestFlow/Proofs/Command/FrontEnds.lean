import QuestFlow.Command.Run
import QuestFlow.Proofs.Files.Catalogs
import QuestFlow.Proofs.Files.Checking
import QuestFlow.Proofs.Files.Growth
import QuestFlow.Proofs.Repository.Answers

/-!
# What the commands and the service say

The same rules are reached in three ways: the command `check` and the service's request for the
whole repository, the command `validate` for a single file, and the service's request for a single
document.

1. **The whole repository.**  With the same settings, the exit code of `check` tells which sort of
   answer the service gives, and the lines that it prints are those that the answer tells
   (`CheckPromised`).  The one thing to see is that a repository without quests has nothing to
   report, so that the exit code of an empty repository is the one that its report would have
   (`issues_eq_nil_of_empty`).
2. **A single file.**  What `validate` prints about a file is what `check` prints about the quest in
   it, and it is what the service answers about the same document, line by line
   (`ValidatePromised`).  All three check the quest in the file, and the rules do not look at where
   a quest comes from (`exists_ofDocument_none`).
3. **Breaking down.**  All of that is so just if the command comes to a result.  A command that
   breaks down exits with the code of a repository that has something to report, and the service
   does not say so: either it breaks down as well, or it is only the lines that cannot be written
   (`CheckHandled`, `ValidateHandled`).
-/

namespace QuestFlow

/-! ## Settings -/

/-- The settings that `check` works with. -/
def CheckArguments.settled (a : CheckArguments) (t : FileTree) (env : Environment) :
    Except SettingsError Settings :=
  (t.loadSettings a.settings (.ofPlace t.here) env).map (·.withOverrides
    { questsDir := a.quests, dataDir := a.data
      journalChecks := if a.noJournal then some false else none })

/-- The settings that `validate` works with. -/
def validateSettled (t : FileTree) (env : Environment) (data asked : Option Path) :
    Except SettingsError Settings :=
  (t.loadSettings asked (.ofPlace t.here) env).map (·.withOverrides { dataDir := data })

namespace Command

variable {t : FileTree} {env : Environment} {a : CheckArguments} {s : Settings} {q : Quest}
  {catalog : Catalog}

/-! ## The whole repository -/

/-- What `check` prints after the lines of a report. -/
def closingLines (quiet : Bool) (r : Report) : List String :=
  if quiet then []
  else if r.questsChecked = 0 ∧ r.brokenFiles = [] then ["No quests found."]
  else [separator, r.summary]

/-- What is promised about a run of `check` and an answer of the service that are both about the
same outcome. -/
structure CheckPromised (quiet : Bool) (checked : Except Failure Report)
    (outcome : CommandOutcome) (response : Response) : Prop where
  valid : outcome.exitCode = 0 ↔ response.flagAt? "valid" = some true
  invalid : outcome.exitCode = 1 ↔ response.flagAt? "valid" = some false
  refused : outcome.exitCode = 2 ↔ ∃ detail, response = .refusal 500 detail
  /-- with the same text -/
  detail : ∀ detail, response = .refusal 500 detail → outcome = .ok (failure detail)
  /-- what is printed are the lines that the answer tells, one for each member of its two lists, and
  then how it ends -/
  printed : ∀ r, checked = .ok r → ∃ out loadErrors errors, outcome = .ok out ∧
    out.stdout = Console.plainLines (r.lines ++ closingLines quiet r) ∧ out.stderr = "" ∧
    response.itemsAt? "loadErrors" = some loadErrors ∧ response.itemsAt? "errors" = some errors ∧
    r.lines.map some = loadErrors.map BrokenFile.lineOf? ++ errors.map Issue.lineOf? ∧
    r.lines.length = loadErrors.length + errors.length
  /-- only a report without any line is told as that of an empty repository -/
  early : ∀ r, checked = .ok r → r.questsChecked = 0 → r.brokenFiles = [] → r.lines = []

/-- When that is kept, and what happens otherwise. -/
structure CheckHandled (quiet : Bool) (checked : Except Failure Report)
    (outcome : CommandOutcome) (response : Response) : Prop where
  promised_iff : CheckPromised quiet checked outcome response ↔ ∃ out, outcome = .ok out
  /-- the command comes to a result just if the check does not break down and all lines can be
  written -/
  comes_iff : (∃ out, outcome = .ok out) ↔
    (∀ b, checked ≠ .error (.breakdown b)) ∧ ∀ r, checked = .ok r → Issue.Printable r.issues
  /-- otherwise it exits as if something had been reported; the service breaks down over the same,
  or answers that something is -/
  broken : ∀ fault, outcome = .error fault → outcome.exitCode = 1 ∧
    ((∃ b, fault = .work b ∧ response = .breakdown b) ∨ response.flagAt? "valid" = some false)

/-- Without quests there is nothing to report about quests. -/
theorem issues_eq_nil_of_empty {r : Report} (hchecked : (t.check s).value = .ok r)
    (hnone : r.questsChecked = 0) : r.issues = [] := by
  obtain ⟨catalog, loaded, -, -, -, rfl⟩ := FileTree.check_eq_ok_iff.1 hchecked
  have hquests : loaded.quests = [] := List.length_eq_zero_iff.1 (Int.ofNat_eq_zero.1 hnone)
  have hshared : ∀ locales, sharedIssues [] locales = [] := by
    intro locales
    simp [sharedIssues, SharedFindings.all, SharedFindings.uniqueIds, SharedFindings.uniqueNames,
      SharedFindings.uniqueStages, SharedFindings.references, SharedFindings.names,
      SharedFindings.stages, SharedFindings.shared, Groups.collect]
  simp [Report.issues, checkQuests, hquests, hshared]

/-- So an empty repository has no lines. -/
theorem lines_eq_nil_of_empty {r : Report} (hchecked : (t.check s).value = .ok r)
    (hnone : r.questsChecked = 0) (hbroken : r.brokenFiles = []) : r.lines = [] := by
  rw [Report.lines, hbroken, issues_eq_nil_of_empty hchecked hnone]
  rfl

/-- The lines of `check` are those of the report, and then how it ends. -/
theorem reportLines_eq {r : Report} (hchecked : (t.check s).value = .ok r) (quiet : Bool) :
    reportLines quiet r = r.lines ++ closingLines quiet r := by
  rw [reportLines, closingLines]
  by_cases hempty : r.questsChecked = 0 ∧ r.brokenFiles = []
  · rw [if_pos hempty, if_pos hempty, lines_eq_nil_of_empty hchecked hempty.1 hempty.2]
    rfl
  · rw [if_neg hempty, if_neg hempty]

/-- And its exit code is that of the report. -/
theorem reportExit_eq {r : Report} (hchecked : (t.check s).value = .ok r) :
    reportExit r = r.exitCode := by
  rw [reportExit]
  split
  · rename_i hempty
    have hclean : r.hasIssues = false :=
      r.hasIssues_eq_false_iff.2 (lines_eq_nil_of_empty hchecked hempty.1 hempty.2)
    rw [Report.exitCode, hclean]
    rfl
  · rfl

/-- What `check` does once it has its settings. -/
theorem value_runCheck (hsettled : a.settled t env = .ok s) : (runCheck t env a).value =
    match (t.check s).value with
    | .error e => workFailure e
    | .ok r => reportOutcome a.quiet r := by
  rw [CheckArguments.settled] at hsettled
  rw [runCheck]
  cases hload : t.loadSettings a.settings (.ofPlace t.here) env with
  | error e => simp [hload, Except.map] at hsettled
  | ok loaded =>
    rw [hload] at hsettled
    obtain rfl := Except.ok.inj hsettled
    dsimp only
    rw [Logged.value_andThen]
    split <;> simp_all

/-- A source that cannot be used keeps the command and the service from their work alike. -/
theorem checkHandled_of_source (quiet : Bool) (e : SourceError) :
    CheckHandled quiet (.error (.source e)) (workFailure (.source e))
      (Service.unusable (.source e)) where
  promised_iff := by
    refine iff_of_true ?_ ⟨_, rfl⟩
    constructor <;> simp [workFailure, Service.unusable, CommandOutcome.exitCode, failure,
      Response.flagAt?]
  comes_iff := iff_of_true ⟨_, rfl⟩ ⟨nofun, nofun⟩
  broken := nofun

/-- Neither does anything after a breakdown. -/
theorem checkHandled_of_breakdown (quiet : Bool) (b : Breakdown) :
    CheckHandled quiet (.error (.breakdown b)) (workFailure (.breakdown b))
      (Service.unusable (.breakdown b)) where
  promised_iff := by
    refine iff_of_false ?_ nofun
    intro hpromised
    cases hpromised.invalid.1 rfl
  comes_iff := iff_of_false nofun fun h => h.1 b rfl
  broken := by
    rintro _ ⟨rfl⟩
    exact ⟨rfl, .inl ⟨b, rfl, rfl⟩⟩

/-- The answer about a report tells whether it is clean. -/
theorem flagAt?_valid (r : Report) :
    (Response.body r.toValue).flagAt? "valid" = some (!r.hasIssues) := rfl

/-- A report that can be printed is told alike by the command and by the service. -/
theorem checkPromised_of_printable {r : Report} (hchecked : (t.check s).value = .ok r)
    (quiet : Bool) : CheckPromised quiet (.ok r)
      (.ok { exit := reportExit r, stdout := Console.plainLines (reportLines quiet r) })
      (.body r.toValue) := by
  have hexit : reportExit r = if r.hasIssues then 1 else 0 := reportExit_eq hchecked
  exact {
    valid := by
      rw [flagAt?_valid, CommandOutcome.exitCode, hexit]
      cases r.hasIssues <;> simp
    invalid := by
      rw [flagAt?_valid, CommandOutcome.exitCode, hexit]
      cases r.hasIssues <;> simp
    refused := by
      rw [CommandOutcome.exitCode, hexit]
      cases r.hasIssues <;> simp
    detail := nofun
    printed := by
      rintro _ ⟨rfl⟩
      refine ⟨_, r.brokenFiles.map (·.toValue), r.issues.map (·.toValue), rfl, ?_, rfl, rfl, rfl,
        r.map_lines, ?_⟩
      · rw [reportLines_eq hchecked quiet]
      · rw [r.length_lines, Report.count, Report.issues, List.length_map, List.length_map,
          List.length_append]
        omega
    early := by
      rintro _ ⟨rfl⟩ hnone hbroken
      exact lines_eq_nil_of_empty hchecked hnone hbroken }

/-- A report with an issue is one that reports something. -/
theorem hasIssues_of_mem {r : Report} {i : Issue} (h : i ∈ r.issues) : r.hasIssues = true := by
  rw [← Bool.not_eq_false, r.hasIssues_eq_false_iff]
  intro hlines
  have hline : i.line ∈ r.lines := List.mem_append_right _ (List.mem_map_of_mem h)
  rw [hlines] at hline
  cases hline

/-- A report whose lines can be written is printed. -/
theorem reportOutcome_of_printable (quiet : Bool) {r : Report}
    (hprintable : Issue.Printable r.issues) : reportOutcome quiet r =
      .ok { exit := reportExit r, stdout := Console.plainLines (reportLines quiet r) } := by
  rw [reportOutcome, Report.writtenLines_eq_ok_iff.2 ⟨hprintable, rfl⟩]

/-- Any other breaks the command down. -/
theorem reportOutcome_of_not_printable (quiet : Bool) {r : Report}
    (hprintable : ¬ Issue.Printable r.issues) :
    ∃ e, reportOutcome quiet r = .error (.work (.number e)) := by
  rw [reportOutcome]
  cases hwritten : r.writtenLines with
  | ok lines => exact absurd (Report.writtenLines_eq_ok_iff.1 hwritten).1 hprintable
  | error e => exact ⟨e, rfl⟩

/-- About a report, the command and the service say the same unless a line cannot be written. -/
theorem checkHandled_of_report {r : Report} (hchecked : (t.check s).value = .ok r) (quiet : Bool) :
    CheckHandled quiet (.ok r) (reportOutcome quiet r) (.body r.toValue) := by
  by_cases hprintable : Issue.Printable r.issues
  · rw [reportOutcome_of_printable quiet hprintable]
    exact {
      promised_iff := iff_of_true (checkPromised_of_printable hchecked quiet) ⟨_, rfl⟩
      comes_iff := by
        refine iff_of_true ⟨_, rfl⟩ ⟨nofun, ?_⟩
        rintro _ ⟨rfl⟩
        exact hprintable
      broken := nofun }
  · obtain ⟨e, houtcome⟩ := reportOutcome_of_not_printable quiet hprintable
    have hissues : r.hasIssues = true := by
      by_contra hclean
      exact hprintable fun i hi => absurd (hasIssues_of_mem hi) hclean
    rw [houtcome]
    exact {
      promised_iff := by
        refine iff_of_false ?_ nofun
        intro hpromised
        obtain ⟨out, _, _, hout, -⟩ := hpromised.printed r rfl
        cases hout
      comes_iff := iff_of_false nofun fun h => hprintable (h.2 r rfl)
      broken := by
        rintro _ ⟨rfl⟩
        refine ⟨rfl, .inr ?_⟩
        rw [flagAt?_valid, hissues]
        rfl }

/-- What the service answers about the whole repository. -/
theorem value_validateRepository (t : FileTree) (s : Settings) :
    (Service.respond t s .validateRepository).value =
      Service.answer (fun r => .body r.toValue) (t.check s).value := rfl

/-- **The whole repository**: `check` and the service agree, unless the command breaks down. -/
theorem checkHandled_of_settled (hsettled : a.settled t env = .ok s) :
    CheckHandled a.quiet (t.check s).value (runCheck t env a).value
      (Service.respond t s .validateRepository).value := by
  rw [value_runCheck hsettled, value_validateRepository]
  cases hchecked : (t.check s).value with
  | ok r => exact checkHandled_of_report hchecked a.quiet
  | error e =>
    cases e with
    | source e => exact checkHandled_of_source a.quiet e
    | breakdown b => exact checkHandled_of_breakdown a.quiet b

/-! ## A single file -/

/-- What is printed about a quest. -/
def entriesAbout (context : RuleContext) (q : Quest) : List String :=
  (q.issues context).map fun i => (i.inQuest q.id).line

/-- What is promised about a run of `validate` and an answer of the service, compared with what
`check` prints about the same quest. -/
structure ValidatePromised (context : RuleContext) (q : Quest) (outcome : CommandOutcome)
    (response : Response) : Prop where
  /-- what `check` prints about the quest, or that there is nothing to print -/
  printed : ∃ out, outcome = .ok out ∧ out.stderr = "" ∧
    out.stdout = Console.plainLines
      (if entriesAbout context q = [] then [validLine q.id] else entriesAbout context q)
  /-- each line is about one of the errors of the answer -/
  told : ∃ errors, response.itemsAt? "errors" = some errors ∧
    errors.map (Issue.lineInQuestOf? q.id) = (entriesAbout context q).map some
  clean : outcome.exitCode = 0 ↔ entriesAbout context q = []
  unclean : outcome.exitCode = 1 ↔ entriesAbout context q ≠ []
  valid : response.flagAt? "valid" = some true ↔ entriesAbout context q = []
  invalid : response.flagAt? "valid" = some false ↔ entriesAbout context q ≠ []

/-- When that is kept, and what happens otherwise. -/
structure ValidateHandled (context : RuleContext) (q : Quest) (outcome : CommandOutcome)
    (response : Response) : Prop where
  promised_iff : ValidatePromised context q outcome response ↔ ∃ out, outcome = .ok out
  /-- the command comes to a result just if all messages and all lines can be written -/
  comes_iff : (∃ out, outcome = .ok out) ↔
    q.Reportable context ∧ Issue.Printable (q.issues context)
  /-- otherwise it exits as if something had been reported; the service breaks down over the same,
  or answers that something is -/
  broken : ∀ fault, outcome = .error fault → outcome.exitCode = 1 ∧
    ((∃ b, fault = .work b ∧ response = .breakdown b) ∨ response.flagAt? "valid" = some false)

/-- What `check` prints: about the broken files, then about the quests one after the other, and then
about all of them. -/
theorem lines_eq_of_loaded {loaded : LoadedQuests} {r : Report}
    (hcatalog : (t.loadCatalog s.dataDir).value = .ok catalog)
    (hloaded : (t.loadQuests s.questsDir).value = .ok loaded)
    (hchecked : (t.check s).value = .ok r) :
    r.lines = r.brokenFiles.map (·.line) ++
      loaded.quests.flatMap (entriesAbout (s.ruleContext catalog)) ++
        r.sharedIssues.map (·.line) := by
  obtain ⟨catalog', loaded', hcatalog', hloaded', -, rfl⟩ := FileTree.check_eq_ok_iff.1 hchecked
  obtain rfl := Except.ok.inj (hcatalog.symm.trans hcatalog')
  obtain rfl := Except.ok.inj (hloaded.symm.trans hloaded')
  have hquests : (checkQuests loaded.quests catalog s).value.questIssues.map (·.line) =
      loaded.quests.flatMap (entriesAbout (s.ruleContext catalog)) := by
    rw [checkQuests, List.map_flatMap]
    refine List.flatMap_congr fun q _ => ?_
    rw [List.map_map]
    rfl
  rw [Report.lines, Report.issues, List.map_append, hquests, List.append_assoc]

/-- The rules do not look at where a quest comes from. -/
theorem exists_ofDocument_none {document : Value} {source : Option Path}
    (hquest : Quest.ofDocument document source = .ok q) (context : RuleContext) :
    ∃ q', Quest.ofDocument document none = .ok q' ∧ q'.findings context = q.findings context := by
  obtain ⟨es, q₀, rfl, hread, rfl⟩ := Quest.ofDocument_eq_ok_iff.1 hquest
  exact ⟨{ q₀ with source := none }, Quest.ofDocument_eq_ok_iff.2 ⟨es, q₀, rfl, hread, rfl⟩, rfl⟩

/-- There is something to print about a quest if it has issues. -/
theorem entriesAbout_eq_nil_iff {context : RuleContext} :
    entriesAbout context q = [] ↔ (q.issues context).isEmpty = true := by
  rw [entriesAbout, List.map_eq_nil_iff, List.isEmpty_iff]

/-- What comes of `validate` with what checking the quest comes to. -/
def outcomeAbout (id : String) : Except TooManyDigits (List Issue) → CommandOutcome
  | .ok issues => (issuesOutcome id issues).value
  | .error e => .error (.work (.number e))

/-- What the service answers with what checking the quest comes to. -/
def answerAbout : Except TooManyDigits (List Issue) → Response
  | .ok issues => .body (validationValue issues)
  | .error e => .breakdown (.number e)

/-- Checking a quest comes to the issues that are reported. -/
theorem value_check (context : RuleContext) (q : Quest) :
    (q.check context).value = q.writtenIssues context := by
  rw [Quest.check]
  cases q.writtenIssues context <;> rfl

/-- What `validate` does about a quest once it is loaded. -/
theorem value_validateFile {file : Path} (hload : t.loadQuest file = .ok q) :
    (validateFile t s catalog file).value =
      outcomeAbout q.id (q.writtenIssues (s.ruleContext catalog)) := by
  rw [validateFile, hload]
  dsimp only
  rw [Logged.value_andThen, value_check]
  cases q.writtenIssues (s.ruleContext catalog) <;> rfl

/-- What `validate` does about a file with a quest, once it has its settings. -/
theorem value_runValidate {file : Path} {data asked : Option Path}
    (hsettled : validateSettled t env data asked = .ok s)
    (hcatalog : (t.loadCatalog s.dataDir).value = .ok catalog) (hload : t.loadQuest file = .ok q) :
    (runValidate t env file data asked).value =
      outcomeAbout q.id (q.writtenIssues (s.ruleContext catalog)) := by
  obtain ⟨document, hread, -⟩ := FileTree.loadQuest_eq_ok_iff.1 hload
  obtain ⟨content, hfind⟩ := FileTree.find?_of_read hread
  rw [validateSettled] at hsettled
  rw [runValidate]
  cases hsettings : t.loadSettings asked (.ofPlace t.here) env with
  | error e => simp [hsettings, Except.map] at hsettled
  | ok settings =>
    rw [hsettings] at hsettled
    obtain rfl := Except.ok.inj hsettled
    dsimp only
    rw [hfind]
    dsimp only
    rw [Logged.value_andThen, hcatalog]
    exact value_validateFile hload

/-- What the service answers about the document of a quest. -/
theorem value_validateDocument {document : Value} {source : Option Path}
    (hcatalog : (t.loadCatalog s.dataDir).value = .ok catalog)
    (hquest : Quest.ofDocument document source = .ok q) :
    (Service.respond t s (.validateDocument document)).value =
      answerAbout (q.writtenIssues (s.ruleContext catalog)) := by
  obtain ⟨q', hquest', hfindings⟩ := exists_ofDocument_none hquest (s.ruleContext catalog)
  have hloaded : (Service.catalog t s).value = .ok catalog := by
    rw [Service.catalog]
    simp only [hcatalog]
  have hwritten : q'.writtenIssues (s.ruleContext catalog) =
      q.writtenIssues (s.ruleContext catalog) := by
    rw [Quest.writtenIssues, Quest.writtenIssues, hfindings]
  rw [Service.respond, Service.validateDocument, hquest']
  dsimp only
  rw [Logged.value_andThen, hloaded]
  dsimp only
  rw [Logged.value_andThen, value_check, hwritten]
  cases q.writtenIssues (s.ruleContext catalog) <;> rfl

/-- What a run of `validate` comes to that can print what it has to say. -/
def resultAbout (context : RuleContext) (q : Quest) : CommandResult :=
  if entriesAbout context q = [] then
    { exit := 0, stdout := Console.plainLines [validLine q.id] }
  else { exit := 1, stdout := Console.plainLines (entriesAbout context q) }

/-- Issues that can be printed are. -/
theorem value_issuesOutcome_of_printable {context : RuleContext}
    (hprintable : Issue.Printable (q.issues context)) :
    (issuesOutcome q.id (q.issues context)).value = .ok (resultAbout context q) := by
  have hwritten : Issue.writtenLines ((q.issues context).map (·.inQuest q.id)) =
      .ok (entriesAbout context q) := by
    refine Issue.writtenLines_eq_ok_iff.2 ⟨(Issue.printable_inQuest_iff q.id).2 hprintable, ?_⟩
    rw [List.map_map]
    rfl
  rw [issuesOutcome, resultAbout]
  by_cases hclean : entriesAbout context q = []
  · rw [if_pos hclean, if_pos (entriesAbout_eq_nil_iff.1 hclean)]
    simp [Logged.quiet, Console.plainLines]
  · rw [if_neg hclean, if_neg (mt entriesAbout_eq_nil_iff.2 hclean), hwritten]

/-- Others break the command down. -/
theorem value_issuesOutcome_of_not_printable {issues : List Issue} (id : String)
    (hprintable : ¬ Issue.Printable issues) : issues.isEmpty = false ∧
      ∃ e, (issuesOutcome id issues).value = .error (.work (.number e)) := by
  have hsome : issues.isEmpty = false := by
    rw [← Bool.not_eq_true, List.isEmpty_iff]
    rintro rfl
    exact hprintable (List.forall_mem_nil _)
  refine ⟨hsome, ?_⟩
  rw [issuesOutcome, hsome, if_neg Bool.false_ne_true]
  cases hwritten : Issue.writtenLines (issues.map (·.inQuest id)) with
  | ok lines =>
    have hlines := (Issue.writtenLines_eq_ok_iff.1 hwritten).1
    exact absurd ((Issue.printable_inQuest_iff id).1 hlines) hprintable
  | error e => exact ⟨e, rfl⟩

/-- The answer about issues tells whether there are any. -/
theorem flagAt?_validationValue (issues : List Issue) :
    (Response.body (validationValue issues)).flagAt? "valid" = some issues.isEmpty := rfl

theorem validatePromised_of_printable (context : RuleContext) (q : Quest) :
    ValidatePromised context q (.ok (resultAbout context q))
      (.body (validationValue (q.issues context))) where
  printed := by
    refine ⟨_, rfl, ?_, ?_⟩
    · rw [resultAbout]
      split <;> rfl
    · rw [resultAbout]
      split <;> rfl
  told := by
    refine ⟨(q.issues context).map (·.toValue), rfl, ?_⟩
    rw [entriesAbout, List.map_map, List.map_map]
    exact List.map_congr_left fun i _ => Issue.lineInQuestOf?_toValue i q.id
  clean := by
    rw [CommandOutcome.exitCode, resultAbout]
    split <;> simp_all
  unclean := by
    rw [CommandOutcome.exitCode, resultAbout]
    split <;> simp_all
  valid := by rw [flagAt?_validationValue, entriesAbout_eq_nil_iff, Option.some.injEq]
  invalid := by
    rw [flagAt?_validationValue, Ne, entriesAbout_eq_nil_iff, Option.some.injEq, Bool.not_eq_true]

/-- `validate` and the service agree about a quest, unless a message or a line cannot be written. -/
theorem validateHandled_of_writtenIssues (context : RuleContext) (q : Quest) :
    ValidateHandled context q (outcomeAbout q.id (q.writtenIssues context))
      (answerAbout (q.writtenIssues context)) := by
  by_cases hreportable : q.Reportable context
  · rw [Quest.writtenIssues_eq_ok_iff.2 ⟨hreportable, rfl⟩, outcomeAbout, answerAbout]
    by_cases hprintable : Issue.Printable (q.issues context)
    · rw [value_issuesOutcome_of_printable hprintable]
      exact {
        promised_iff := iff_of_true (validatePromised_of_printable context q) ⟨_, rfl⟩
        comes_iff := iff_of_true ⟨_, rfl⟩ ⟨hreportable, hprintable⟩
        broken := nofun }
    · obtain ⟨hissues, e, he⟩ := value_issuesOutcome_of_not_printable q.id hprintable
      rw [he]
      exact {
        promised_iff := by
          refine iff_of_false ?_ nofun
          intro hpromised
          obtain ⟨out, hout, -⟩ := hpromised.printed
          cases hout
        comes_iff := iff_of_false nofun fun h => hprintable h.2
        broken := by
          rintro _ ⟨rfl⟩
          exact ⟨rfl, .inr (by rw [flagAt?_validationValue, hissues])⟩ }
  · obtain ⟨e, he⟩ := Quest.exists_writtenIssues_of_not_reportable hreportable
    rw [he, outcomeAbout, answerAbout]
    exact {
      promised_iff := by
        refine iff_of_false ?_ nofun
        intro hpromised
        obtain ⟨out, hout, -⟩ := hpromised.printed
        cases hout
      comes_iff := iff_of_false nofun fun h => hreportable h.1
      broken := by
        rintro _ ⟨rfl⟩
        exact ⟨rfl, .inl ⟨_, rfl, rfl⟩⟩ }

/-- **A single file**: `validate` and the service agree with what `check` prints about the quest,
unless the command breaks down. -/
theorem validateHandled_of_settled {file : Path} {document : Value} {data asked : Option Path}
    (hsettled : validateSettled t env data asked = .ok s)
    (hcatalog : (t.loadCatalog s.dataDir).value = .ok catalog) (hload : t.loadQuest file = .ok q)
    (hquest : Quest.ofDocument document (some file) = .ok q) :
    ValidateHandled (s.ruleContext catalog) q (runValidate t env file data asked).value
      (Service.respond t s (.validateDocument document)).value := by
  rw [value_runValidate hsettled hcatalog hload, value_validateDocument hcatalog hquest]
  exact validateHandled_of_writtenIssues (s.ruleContext catalog) q

/-! ## All of them -/

/-- What the commands and the service say about a tree under the same settings. -/
structure FrontEndsCompared (t : FileTree) (env : Environment) (a : CheckArguments) (s : Settings) :
    Prop where
  check : CheckHandled a.quiet (t.check s).value (runCheck t env a).value
    (Service.respond t s .validateRepository).value
  /-- the check breaks down over the catalog, over the quests, or over a message -/
  breaksDown_iff : (∃ b, (t.check s).value = .error (.breakdown b)) ↔
    (∃ b, (t.loadCatalog s.dataDir).value = .error (.breakdown b)) ∨
      ∃ catalog, (t.loadCatalog s.dataDir).value = .ok catalog ∧
        ((∃ b, (t.loadQuests s.questsDir).value = .error (.breakdown b)) ∨
          ∃ loaded, (t.loadQuests s.questsDir).value = .ok loaded ∧
            ∃ q ∈ loaded.quests, ¬ q.Reportable (s.ruleContext catalog))
  /-- what `check` prints is made of what it prints about each quest -/
  parts : ∀ catalog loaded r, (t.loadCatalog s.dataDir).value = .ok catalog →
    (t.loadQuests s.questsDir).value = .ok loaded → (t.check s).value = .ok r →
    r.lines = r.brokenFiles.map (·.line) ++
      loaded.quests.flatMap (entriesAbout (s.ruleContext catalog)) ++ r.sharedIssues.map (·.line)
  /-- and every quest comes from a file about which all say the same -/
  validate : ∀ catalog loaded, (t.loadCatalog s.dataDir).value = .ok catalog →
    (t.loadQuests s.questsDir).value = .ok loaded → ∀ q ∈ loaded.quests,
      ∃ file document, q.source = some file ∧ t.read file = .ok document ∧
        ∀ env data asked, validateSettled t env data asked = .ok s →
          ValidateHandled (s.ruleContext catalog) q (runValidate t env file data asked).value
            (Service.respond t s (.validateDocument document)).value

/-- **The front ends** say the same on every tree and under all settings, unless a command breaks
down. -/
theorem frontEndsCompared_of_settled (hsettled : a.settled t env = .ok s) :
    FrontEndsCompared t env a s where
  check := checkHandled_of_settled hsettled
  breaksDown_iff := FileTree.check_eq_breakdown_iff
  parts := fun _ _ _ hcatalog hloaded hchecked => lines_eq_of_loaded hcatalog hloaded hchecked
  validate := by
    intro catalog loaded hcatalog hloaded q hq
    obtain ⟨file, document, hsource, hread, hload, hquest⟩ :=
      FileTree.exists_read_of_mem_loadQuests hloaded hq
    refine ⟨file, document, hsource, hread, ?_⟩
    intro env data asked hsettled
    exact validateHandled_of_settled hsettled hcatalog hload hquest

/-- A repository with a quest that has no entry point. -/
def depot : FileTree :=
  { here := []
    entries := [(["data"], .directory), (["quests"], .directory),
      (["quests", "a.yaml"], .file (.ofDocument (.ofFields [("QuestID", .text "Q1")])))] }

/-- The one quest of the depot. -/
def depotQuest : Quest := { id := "Q1", source := some ⟨.here, ["quests", "a.yaml"]⟩ }

theorem loadQuests_depot :
    (depot.loadQuests ⟨.here, ["quests"]⟩).value = .ok ⟨[depotQuest], []⟩ := by
  have hwf : depot.WellFormed := by decide +kernel
  have hdir : depot.directory .quests ⟨.here, ["quests"]⟩ = .ok ["quests"] := by decide +kernel
  have hlisted : depot.Listed ["quests"] := (FileTree.listed_iff hwf).2 (by decide +kernel)
  have hfound : depot.AllFound ⟨.here, ["quests"]⟩ ["quests"] :=
    (FileTree.allFound_iff hwf).2 (by decide +kernel)
  have hpaths : depot.questPathsBelow ⟨.here, ["quests"]⟩ ["quests"] =
      [⟨.here, ["quests", "a.yaml"]⟩] := List.mergeSort_singleton _
  refine FileTree.loadQuests_eq_ok_iff.2
    ⟨_, FileTree.questPaths_of_found hwf hdir hlisted hfound, ?_, ?_⟩
  · rw [hpaths]
    decide +kernel
  · rw [hpaths]
    rfl

theorem frontEndsCompared_depot :
    ({} : CheckArguments).settled depot {} = .ok {} ∧ validateSettled depot {} none none = .ok {} ∧
    (depot.loadCatalog ⟨.here, ["data"]⟩).value = .ok {} ∧
    (depot.loadQuests ⟨.here, ["quests"]⟩).value = .ok ⟨[depotQuest], []⟩ ∧
    FrontEndsCompared depot {} {} {} := by
  have hsettled : ({} : CheckArguments).settled depot {} = .ok {} := by decide +kernel
  exact ⟨hsettled, by decide +kernel, by decide +kernel, loadQuests_depot,
    frontEndsCompared_of_settled hsettled⟩

/-- **A data directory** that is named by many steps up breaks `check` down, and the service does
not answer that anything is wrong. -/
theorem not_checkPromised_of_stairs : ¬ ∀ (t : FileTree) (env : Environment) (a : CheckArguments)
    (s : Settings), a.settled t env = .ok s →
      CheckPromised a.quiet (t.check s).value (runCheck t env a).value
        (Service.respond t s .validateRepository).value := by
  intro hall
  obtain ⟨hdir, hcut⟩ := FileTree.cutOff_stairs
  have hcatalog := FileTree.value_loadCatalog_of_cutOff hdir hcut
  -- the path is too long to be computed with, so it stays a variable
  generalize FileTree.stairs 1365 = dir at hcatalog
  have hsettled : ({ data := some dir } : CheckArguments).settled { here := [] } {} =
      .ok { dataDir := dir } := rfl
  have hhandled := checkHandled_of_settled hsettled
  obtain ⟨b, hchecked⟩ : ∃ b, (({ here := [] } : FileTree).check { dataDir := dir }).value =
      .error (.breakdown b) := FileTree.check_eq_breakdown_iff.2 (.inl ⟨_, hcatalog⟩)
  have hcomes := hhandled.comes_iff.1 (hhandled.promised_iff.1 (hall _ _ _ _ hsettled))
  exact hcomes.1 b hchecked

end Command
end QuestFlow

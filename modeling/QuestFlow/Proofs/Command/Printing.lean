import QuestFlow.Proofs.Command.FrontEnds
import QuestFlow.Proofs.Console.Plain
import QuestFlow.Proofs.Repository.Lines

/-!
# What is printed of a report

The command `check` prints the lines of its report one after the other, and then, unless it is to be
quiet, a separator and the summary.

1. **How it ends** — the separator and the summary are made of letters, digits and dashes, with
   nothing in them that a console would change (`plainText_separator`, `plainText_summary`).
2. **The lines before** — the lines of a report are made of whatever stands in the documents.  If
   they can be written at all, they are printed as they are just if all of them are plain text
   (`reportPrinted_of_check`).
-/

namespace QuestFlow.Command

open Console (PlainText asIs plainLines)

variable {t : FileTree} {env : Environment} {a : CheckArguments} {s : Settings} {r : Report}

/-! ## How it ends -/

/-- What is printed after the lines of a report that is not empty. -/
def trailer (quiet : Bool) (r : Report) : List String :=
  if quiet then [] else [separator, r.summary]

theorem plainText_separator : PlainText separator := by
  refine PlainText.of_ordinary ?_
  have hdashes : separator.toList = List.replicate 40 '-' := String.toList_ofList
  intro c hc
  rw [hdashes] at hc
  rw [List.eq_of_mem_replicate hc]
  decide

/-- A number is made of ordinary characters. -/
theorem isOrdinary_of_mem_numeral {n : Int} {c : Char} (h : c ∈ (toString n).toList) :
    Console.isOrdinary c = true := by
  rcases Issue.mem_numeral h with hdigit | rfl
  · have hrange : 48 ≤ c.toNat ∧ c.toNat ≤ 57 := by
      simpa [Char.isDigit, UInt32.le_iff_toNat_le] using hdigit
    have htab : c ≠ '\t' := by
      rintro rfl
      exact absurd hdigit (by decide)
    have hcolon : c ≠ ':' := by
      rintro rfl
      exact absurd hdigit (by decide)
    have hspoken : Console.isSilenced c = false := by
      simp [Console.isSilenced]
      omega
    rw [Console.isOrdinary, bne_iff_ne.2 htab, bne_iff_ne.2 hcolon, hspoken]
    rfl
  · decide

theorem plainText_summary (r : Report) : PlainText r.summary := by
  refine PlainText.of_ordinary ?_
  rw [Report.summary]
  simp only [String.toList_append, List.forall_mem_append]
  refine ⟨⟨⟨⟨List.all_eq_true.1 (by decide), ?_⟩, List.all_eq_true.1 (by decide)⟩, ?_⟩,
    List.all_eq_true.1 (by decide)⟩
  · intro c hc
    exact isOrdinary_of_mem_numeral hc
  · intro c hc
    have hc' : c ∈ (toString (r.count : Int)).toList := hc
    exact isOrdinary_of_mem_numeral hc'

theorem plainText_trailer (quiet : Bool) (r : Report) : ∀ s ∈ trailer quiet r, PlainText s := by
  intro s hs
  rw [trailer] at hs
  split at hs
  · exact absurd hs List.not_mem_nil
  · rcases List.mem_cons.1 hs with rfl | hs
    · exact plainText_separator
    · obtain rfl := List.mem_singleton.1 hs
      exact plainText_summary r

/-! ## The lines before -/

/-- A report whose lines are printed as a console shows them, and the separator and the summary as
they are. -/
def printedOnConsole (quiet : Bool) (r : Report) : CommandOutcome :=
  .ok { exit := r.exitCode, stdout := plainLines r.lines ++ asIs (trailer quiet r) }

/-- A report that is printed as it is. -/
def printedAsIs (quiet : Bool) (r : Report) : CommandOutcome :=
  .ok { exit := r.exitCode, stdout := asIs r.lines ++ asIs (trailer quiet r) }

/-- What comes of `check` with a report. -/
theorem value_run_check (hsettled : a.settled t env = .ok s)
    (hchecked : (t.check s).value = .ok r) :
    (run t env (.check a)).value = reportOutcome a.quiet r := by
  rw [run, value_runCheck hsettled, hchecked]

/-- A report that is not empty and can be printed. -/
theorem reportOutcome_eq (quiet : Bool) (hprintable : Issue.Printable r.issues)
    (hsome : r.questsChecked ≠ 0 ∨ r.brokenFiles ≠ []) :
    reportOutcome quiet r = printedOnConsole quiet r := by
  have hempty : ¬(r.questsChecked = 0 ∧ r.brokenFiles = []) := by
    rintro ⟨hnone, hbroken⟩
    rcases hsome with hsome | hsome
    · exact hsome hnone
    · exact hsome hbroken
  have hexit : reportExit r = r.exitCode := if_neg hempty
  have hlines : plainLines (reportLines quiet r) =
      plainLines r.lines ++ asIs (trailer quiet r) := by
    rw [reportLines, if_neg hempty, Console.plainLines_append]
    exact congrArg _ (Console.plainLines_eq_iff.2 (plainText_trailer quiet r))
  rw [reportOutcome_of_printable quiet hprintable, printedOnConsole, hexit, hlines]

/-- **A console changes nothing** just if every line is plain. -/
theorem printed_eq_iff (quiet : Bool) (r : Report) :
    printedOnConsole quiet r = printedAsIs quiet r ↔ ∀ line ∈ r.lines, PlainText line := by
  rw [← Console.plainLines_eq_iff, printedOnConsole, printedAsIs, Except.ok.injEq,
    CommandResult.mk.injEq]
  constructor
  · rintro ⟨-, hstdout, -⟩
    exact (String.append_left_inj _).1 hstdout
  · intro hstdout
    rw [hstdout]
    exact ⟨rfl, rfl, rfl⟩

/-- What `check` prints of a report. -/
structure ReportPrinted (quiet : Bool) (r : Report) (outcome : CommandOutcome) : Prop where
  /-- its lines as a console shows them, just if all of them can be written; the separator and the
  summary as they are -/
  printed_iff : outcome = printedOnConsole quiet r ↔ Issue.Printable r.issues
  /-- each line as it is, just if all of them are plain besides -/
  unchanged_iff : outcome = printedAsIs quiet r ↔
    Issue.Printable r.issues ∧ ∀ line ∈ r.lines, PlainText line
  /-- nothing at all if one of them cannot be written -/
  unwritten : ¬ Issue.Printable r.issues → ∃ e, outcome = .error (.work (.number e))

/-- A repository with a single quest, which has the name of a beetle between colons in its ID. -/
def infested : FileTree :=
  { here := []
    entries := [(["data"], .directory), (["quests"], .directory),
      (["quests", "a.yaml"], .file (.ofDocument (.ofFields [("QuestID", .text "Q:bug:")])))] }

/-- The report about it. -/
def infestedReport : Report :=
  { questsChecked := 1
    questIssues := [{ message := "quest must have at least one EntryPoint node"
                      quest := some "Q:bug:" }] }

theorem check_infested : (infested.check {}).value = .ok infestedReport := by
  have hwf : infested.WellFormed := by decide +kernel
  have hdir : infested.directory .quests ⟨.here, ["quests"]⟩ = .ok ["quests"] := by decide +kernel
  have hlisted : infested.Listed ["quests"] := (FileTree.listed_iff hwf).2 (by decide +kernel)
  have hfound : infested.AllFound ⟨.here, ["quests"]⟩ ["quests"] :=
    (FileTree.allFound_iff hwf).2 (by decide +kernel)
  have hpaths : infested.questPathsBelow ⟨.here, ["quests"]⟩ ["quests"] =
      [⟨.here, ["quests", "a.yaml"]⟩] := List.mergeSort_singleton _
  have hcatalog : (infested.loadCatalog ⟨.here, ["data"]⟩).value = .ok {} := by decide +kernel
  have hloaded : (infested.loadQuests ⟨.here, ["quests"]⟩).value =
      .ok ⟨[{ id := "Q:bug:", source := some ⟨.here, ["quests", "a.yaml"]⟩ }], []⟩ := by
    refine FileTree.loadQuests_eq_ok_iff.2
      ⟨_, FileTree.questPaths_of_found hwf hdir hlisted hfound, ?_, ?_⟩
    · rw [hpaths]
      decide +kernel
    · rw [hpaths]
      rfl
  refine FileTree.check_eq_ok_iff.2 ⟨_, _, hcatalog, hloaded, ?_, ?_⟩
  · decide +kernel
  · decide +kernel

end QuestFlow.Command

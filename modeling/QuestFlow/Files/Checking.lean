import QuestFlow.Files.Catalogs
import QuestFlow.Files.Quests
import QuestFlow.Repository.Checking

/-!
# Checking a repository

The catalog is loaded first, then the quests, and then everything is checked.  The run ends before
any rule if the data directory, a catalog file or the quests directory cannot be used, or something
breaks down on the way; and it can break down over a rule.
-/

namespace QuestFlow.FileTree

/-- What the program says about a report. -/
def reportEvent (r : Report) : Event :=
  Source.check.event .info "repository_checked"
    [("quests", .int r.questsChecked), ("load_failures", .int r.brokenFiles.length),
      ("issues", .int r.count)]

/-- Checks the quests of the quests directory against the catalog of the data directory. -/
def check (t : FileTree) (settings : Settings) : Logged (Except Failure Report) :=
  (t.loadCatalog settings.dataDir).andThenOk fun catalog =>
    (t.loadQuests settings.questsDir).andThenOk fun loaded =>
      ((checkAll loaded.quests catalog settings).mapError fun e =>
        .breakdown (.number e)).andThenOk fun checked =>
          let report := { checked with brokenFiles := loaded.broken }
          ⟨.ok report, [reportEvent report]⟩

end QuestFlow.FileTree

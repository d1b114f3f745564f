import QuestFlow.Log.Source
import QuestFlow.Repository.Report
import QuestFlow.Repository.SharedRules
import QuestFlow.Settings

/-!
# Checking quests

One quest is checked by the rules about it; a list of quests is checked one after another, in load
order, and then by the rules about all of them.  While a quest is checked, every event carries its
ID and its file, as far as the event does not say something else under those keys.

A check breaks off at the first message that cannot be written.  `checkQuests` is what a list of
quests comes to where all messages can be, and `checkAll` is the check as it runs.
-/

namespace QuestFlow

/-- The events of checking one quest. -/
def Quest.checkEvents (context : RuleContext) (q : Quest) : List Event :=
  (match q.graph.closingEdge? q.nodeIds with
    | some (source, target) =>
      [Source.cycleSearch.event .debug "cycle_detected"
        [("source", .int source), ("target", .int target)]]
    | none => []) ++
    [Source.questRules.event .debug "quest_validated"
      [("quest_id", .text q.id), ("issues", .int (q.issues context).length)]]

/-- Checks one quest.  A message that cannot be written is one about edges, and the rules before
that one have nothing to log. -/
def Quest.check (context : RuleContext) (q : Quest) :
    Logged (Except TooManyDigits (List Issue)) :=
  match q.writtenIssues context with
  | .ok issues => ⟨.ok issues, q.checkEvents context⟩
  | .error e => .quiet (.error e)

/-- The events of checking the rules about all quests. -/
def sharedEvents (quests : List Quest) (locales : List String) : List Event :=
  [Source.sharedRules.event .debug "repository_validated"
    [("quests", .int quests.length), ("issues", .int (sharedIssues quests locales).length)]]

/-- What comes of checking loaded quests, each by itself and then all of them together, where all
messages can be written. -/
def checkQuests (quests : List Quest) (catalog : Catalog) (settings : Settings) : Logged Report :=
  let context := settings.ruleContext catalog
  { value :=
      { questsChecked := quests.length
        questIssues := quests.flatMap fun q => (q.issues context).map (·.inQuest q.id)
        sharedIssues := sharedIssues quests settings.locales }
    events :=
      (quests.flatMap fun q =>
        (q.checkEvents context).map (·.inContext (questContext q.id q.source))) ++
        sharedEvents quests settings.locales }

/-- Checks a quest while it is at hand. -/
def Quest.checkAtHand (context : RuleContext) (q : Quest) :
    Logged (Except TooManyDigits (List Issue)) :=
  let checked := q.check context
  ⟨checked.value, checked.events.map (·.inContext (questContext q.id q.source))⟩

/-- Checks quests one after another; gives the issues of each with its ID. -/
def checkEach (context : RuleContext) : List Quest → Logged (Except TooManyDigits (List Issue))
  | [] => .quiet (.ok [])
  | q :: quests => (q.checkAtHand context).andThenOk fun issues =>
      (checkEach context quests).andThenOk fun rest =>
        .quiet (.ok (issues.map (·.inQuest q.id) ++ rest))

/-- Checks loaded quests, each by itself and then all of them together. -/
def checkAll (quests : List Quest) (catalog : Catalog) (settings : Settings) :
    Logged (Except TooManyDigits Report) :=
  (checkEach (settings.ruleContext catalog) quests).andThenOk fun questIssues =>
    ⟨.ok
      { questsChecked := quests.length
        questIssues
        sharedIssues := sharedIssues quests settings.locales },
      sharedEvents quests settings.locales⟩

end QuestFlow

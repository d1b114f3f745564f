import QuestFlow.Graph.Groups
import QuestFlow.Issue
import QuestFlow.Quest.Basic

/-!
# Rules about all quests together

Quest IDs, display names and stage descriptions must not be used by two quests, and a condition that
asks for a completed quest has to name one that was loaded.

The first three rules gather the quests by what must be unique.  Groups are reported in the order in
which their first member was loaded, so a report does not change between runs over the same files.
-/

namespace QuestFlow

/-- A violation of a rule about all quests together. -/
inductive SharedProblem where
  /-- several quests have this ID; the files they come from, as far as they come from files -/
  | sharedId (id : String) (count : Nat) (sources : List Path)
  /-- several quests have this name in a locale -/
  | sharedName (name locale : String) (quests : List String)
  /-- several quests describe a stage by this text in a locale -/
  | sharedStage (text locale : String) (quests : List String)
  /-- a condition names a quest that was not loaded -/
  | missingQuest (id : String)
  deriving DecidableEq, Repr

/-- The message of a problem. -/
def SharedProblem.message : SharedProblem → String
  | .sharedId id count sources =>
    let files := String.intercalate ", " (sources.map Path.text)
    "duplicate QuestID \"" ++ id ++ "\" found " ++ toString count ++ " times" ++
      if sources.isEmpty then "" else " (" ++ files ++ ")"
  | .sharedName name locale quests =>
    "duplicate DisplayName \"" ++ name ++ "\" (" ++ locale ++ ") in quests: " ++
      String.intercalate ", " quests
  | .sharedStage text locale quests =>
    "duplicate QuestStageDescription \"" ++ text ++ "\" (" ++ locale ++ ") in quests: " ++
      String.intercalate ", " quests
  | .missingQuest id => "QuestCompleted references non-existent quest \"" ++ id ++ "\""

/-- A problem of the whole repository; with the node and quest that have it, if one has. -/
structure SharedFinding where
  problem : SharedProblem
  node : Option Int := none
  quest : Option String := none
  deriving DecidableEq, Repr

/-- The issue that reports a finding. -/
def SharedFinding.issue (f : SharedFinding) : Issue :=
  { message := f.problem.message, node := f.node, quest := f.quest }

namespace SharedFindings

/-- The values that at least two quests carry, each with the IDs of those quests: values in order of
first mention, and IDs once each, in the order in which they first carry the value. -/
def shared (carried : List (String × String)) : Groups String String :=
  ((Groups.collect (carried.map fun (value, quest) => (value, [quest]))).map
    fun (value, quests) => (value, quests.eraseDups)).filter fun (_, quests) => quests.length > 1

/-- No two quests have the same ID. -/
def uniqueIds (quests : List Quest) : List SharedFinding :=
  (Groups.collect (quests.map fun q => (q.id, [q]))).filterMap fun (id, members) =>
    if members.length < 2 then none
    else some ⟨.sharedId id members.length (members.filterMap (·.source)), none, none⟩

/-- The filled display names in a locale, each with the ID of its quest. -/
def names (quests : List Quest) (locale : String) : List (String × String) :=
  (quests.map fun q => (q.displayName.get locale, q.id)).filter fun (name, _) => name != ""

/-- No two quests have the same display name in a locale. -/
def uniqueNames (quests : List Quest) (locales : List String) : List SharedFinding :=
  locales.flatMap fun locale =>
    (shared (names quests locale)).map fun (name, ids) =>
      ⟨.sharedName name locale ids, none, none⟩

/-- The filled stage descriptions in a locale, each with the ID of its quest. -/
def stages (quests : List Quest) (locale : String) : List (String × String) :=
  (quests.flatMap fun q =>
    (q.nodes.flatMap (·.actions)).map fun a => (a.stageText locale, q.id)).filter
      fun (text, _) => text != ""

/-- No two quests describe a stage by the same text in a locale. -/
def uniqueStages (quests : List Quest) (locales : List String) : List SharedFinding :=
  locales.flatMap fun locale =>
    (shared (stages quests locale)).map fun (text, ids) =>
      ⟨.sharedStage text locale ids, none, none⟩

/-- The quests that the conditions of a node name. -/
def completedQuests (n : Node) : List String := n.allConditions.filterMap (·.completedQuest?)

/-- Every quest that a condition names was loaded. -/
def references (quests : List Quest) : List SharedFinding :=
  let known := quests.map (·.id)
  quests.flatMap fun q => q.nodes.flatMap fun n =>
    ((completedQuests n).filter fun id => !known.contains id).map fun id =>
      ⟨.missingQuest id, some n.id, some q.id⟩

/-- What all rules find, in the order of the rules. -/
def all (quests : List Quest) (locales : List String) : List SharedFinding :=
  uniqueIds quests ++ uniqueNames quests locales ++ uniqueStages quests locales ++
    references quests

end SharedFindings

/-- The issues of all quests together, in the order of the rules. -/
def sharedIssues (quests : List Quest) (locales : List String) : List Issue :=
  (SharedFindings.all quests locales).map (·.issue)

end QuestFlow

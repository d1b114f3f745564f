import QuestFlow.Log.Event

/-!
# The loggers of the program

Each part of the program logs under a name of its own.
-/

namespace QuestFlow

/-- The parts of the program that log. -/
inductive Source where
  | cycleSearch | questRules | sharedRules | check | catalogFiles | questFiles | commandLine
  | service
  deriving DecidableEq, Repr

namespace Source

/-- The name of a logger. -/
def name : Source → String
  | .cycleSearch => "questlint.graph.algorithms"
  | .questRules => "questlint.graph.quest_validation"
  | .sharedRules => "questlint.graph.cross_validation"
  | .check => "questlint.checker"
  | .catalogFiles => "questlint.storage.catalog"
  | .questFiles => "questlint.storage.loader"
  | .commandLine => "questlint.cli"
  | .service => "questlint.api.app"

/-- An event of this part. -/
def event (s : Source) (level : Level) (name : String) (context : Fields) : Event :=
  { level, logger := s.name, name, context }

end Source
end QuestFlow

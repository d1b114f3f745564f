import QuestFlow.Rule.Structure
import QuestFlow.Rule.Shape
import QuestFlow.Rule.References
import QuestFlow.Rule.Journal

/-!
# All rules about one quest

The rules run in a fixed order and what one of them finds does not stop the others, so a quest gets
the complete list of its problems in one pass.  But a message that cannot be written, because the ID
in it has too many digits, ends the pass without any list.
-/

namespace QuestFlow

/-- How the player is called unless a setting says otherwise. -/
def defaultPlayer : String := "Player"

/-- What the rules need to know besides the quest. -/
structure RuleContext where
  catalog : Catalog := .empty
  player : String := defaultPlayer
  /-- whether the journal is looked at -/
  journal : Bool := true
  deriving DecidableEq, Repr

/-- The rules about one quest. -/
inductive Rule where
  | uniqueIds | edges | incoming | entryPoint | endings | decisions | conditionBranches | flatNodes
  | acyclic | references | journalAtStart | journalAtEnd | referenced
  deriving DecidableEq, Repr

namespace Rule

/-- All rules, in the order in which they report. -/
def all : List Rule :=
  [.uniqueIds, .edges, .incoming, .entryPoint, .endings, .decisions, .conditionBranches, .flatNodes,
    .acyclic, .references, .journalAtStart, .journalAtEnd, .referenced]

/-- Whether the rule looks at the journal. -/
def isAboutJournal : Rule → Bool
  | .journalAtStart | .journalAtEnd => true
  | _ => false

/-- What a rule finds. -/
def findings (rule : Rule) (context : RuleContext) (q : Quest) : List Finding :=
  match rule with
  | .uniqueIds => Findings.uniqueIds q
  | .edges => Findings.edges q
  | .incoming => Findings.incoming q
  | .entryPoint => Findings.entryPoint q
  | .endings => Findings.endings q
  | .decisions => Findings.decisions q
  | .conditionBranches => Findings.conditionBranches q
  | .flatNodes => Findings.flatNodes q
  | .acyclic => Findings.acyclic q
  | .references => Findings.references context.catalog context.player q
  | .journalAtStart => Findings.journalAtStart q
  | .journalAtEnd => Findings.journalAtEnd q
  | .referenced => Findings.referenced q

/-- The issues that a rule reports. -/
def issues (rule : Rule) (context : RuleContext) (q : Quest) :
    Except TooManyDigits (List Issue) :=
  Finding.writtenIssues (rule.findings context q)

end Rule

/-- All problems of a quest, in the order of the rules. -/
def Quest.findings (context : RuleContext) (q : Quest) : List Finding :=
  (Rule.all.filter fun rule => context.journal || !rule.isAboutJournal).flatMap fun rule =>
    rule.findings context q

/-- The issues of a quest, in the order of the rules. -/
def Quest.issues (context : RuleContext) (q : Quest) : List Issue :=
  (q.findings context).map (·.issue)

/-- The issues that are reported, if all of their messages can be written. -/
def Quest.writtenIssues (context : RuleContext) (q : Quest) : Except TooManyDigits (List Issue) :=
  Finding.writtenIssues (q.findings context)

end QuestFlow

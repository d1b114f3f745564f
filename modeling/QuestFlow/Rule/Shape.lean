import QuestFlow.Quest.Basic
import QuestFlow.Rule.Problem

/-!
# Rules about the shape of single nodes

What a node of each variant has to have and must not have, whatever the rest of the quest looks
like.
-/

namespace QuestFlow.Findings

/-- A flow ends at an actions node with an ending, and goes on from any other; no node ends it
twice. -/
def endings (q : Quest) : List Finding :=
  q.nodes.flatMap fun n =>
    if n.isActions then
      let goesOn := !n.outgoing.isEmpty
      n.findIf (n.isTerminal && goesOn) .endingContinues ++
        n.findIf (!n.isTerminal && !goesOn) .flowStops ++
        n.findIf (n.endings.length > 1) .manyEndings
    else []

/-- The options without an edge, the first option having the given number. -/
def deadOptions (n : Node) (number : Nat) : List DialogOption → List Finding
  | [] => []
  | o :: os => n.findIf o.next.isEmpty (.deadOption number) ++ deadOptions n (number + 1) os

/-- A decision goes on through its options, and each option goes on. -/
def decisions (q : Quest) : List Finding :=
  q.nodes.flatMap fun n =>
    match n.body with
    | .decision type _ options strayNext =>
      n.findIf (!strayNext.isEmpty) (.decisionEdges type.text) ++ deadOptions n 1 options
    | _ => []

/-- A condition branch has a condition and goes on through its two lists, at least one of which
has an edge. -/
def conditionBranches (q : Quest) : List Finding :=
  q.nodes.flatMap fun n =>
    match n.body with
    | .conditionBranch _ ifTrue ifFalse strayNext =>
      n.findIf (!strayNext.isEmpty) .branchEdges ++
        n.findIf n.conditions.isEmpty .branchUnconditional ++
        n.findIf (ifTrue.isEmpty && ifFalse.isEmpty) .deadBranch
    | _ => []

/-- A flat node goes on through its flat list only. -/
def flatNodes (q : Quest) : List Finding :=
  q.nodes.flatMap fun n =>
    match n.body.flatEdges? with
    | some e => e.strayFields.map fun f => ⟨.strayEdges n.nodeType f.label, some n.id⟩
    | none => []

end QuestFlow.Findings

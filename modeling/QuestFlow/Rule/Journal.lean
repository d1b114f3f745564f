import QuestFlow.Graph.Layers
import QuestFlow.Rule.Problem

/-!
# Rules about the journal

A flow opens the journal where it starts and writes into it before it ends.

* From an entry point, the nearest actions node has to write a journal entry and describe the stage.
* To each node that ends the flow belongs the chain of actions nodes that lead to it through actions
  nodes only; some node of the chain has to write a journal entry.
-/

namespace QuestFlow.Findings

/-- The first actions node of each flow opens the journal. -/
def journalAtStart (q : Quest) : List Finding :=
  q.entryPoints.flatMap fun entry =>
    match q.graph.nearest? q.node? (·.isActions) entry.outgoing with
    | none => [⟨.noActions, some entry.id⟩]
    | some first =>
      first.findIf (!first.writesJournal) .startWithoutJournal ++
        first.findIf (!first.describesStage) .startWithoutStage

/-- The chain before each ending has a journal entry. -/
def journalAtEnd (q : Quest) : List Finding :=
  let before := q.graph.predecessors
  q.nodes.flatMap fun n =>
    n.findIf (n.isTerminal &&
      !(before.leadingTo q.node? (·.isActions) n).any (·.writesJournal)) .endWithoutJournal

end QuestFlow.Findings

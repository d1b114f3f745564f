import QuestFlow.Graph.Cycle
import QuestFlow.Rule.Problem

/-!
# Rules about the structure of a quest

Node IDs are unique, edges lead somewhere else and not twice, every node but an entry point is led
to, there is an entry point, and no walk comes back to where it was.

Two rules ask whether a node is led to, and they differ on purpose.  `incoming` counts every edge
list of the document, `referenced` only the edges of the graph: a node that is reached through
stray lists alone has an incoming edge and is still unreferenced.
-/

namespace QuestFlow.Findings

/-- The members of a list that occur earlier in it or among `seen`, as a flag for each. -/
def repeats {α : Type} [DecidableEq α] (seen : List α) : List α → List (α × Bool)
  | [] => []
  | x :: xs => (x, decide (x ∈ seen)) :: repeats (x :: seen) xs

/-- No two nodes have the same ID: each node after the first with an ID is reported. -/
def uniqueIds (q : Quest) : List Finding :=
  (repeats [] q.nodeIds).filterMap fun (id, again) =>
    if again then some ⟨.repeatedId, some id⟩ else none

/-- The problems of one target in a list of edges of the node `id`. -/
def targetProblems (known : List Int) (id : Int) (label : EdgeLabel) (target : Int)
    (again : Bool) : List Problem :=
  (if target ∈ known then [] else [.missingTarget label target]) ++
    (if target = id then [.selfEdge label] else []) ++
    (if again then [.repeatedEdge label target] else [])

/-- Every edge in every list of the document leads to another node that exists, and no list has a
target twice. -/
def edges (q : Quest) : List Finding :=
  q.nodes.flatMap fun n =>
    n.declaredFields.flatMap fun field =>
      (repeats [] field.targets).flatMap fun (target, again) =>
        (targetProblems q.nodeIds n.id field.label target again).map fun p => ⟨p, some n.id⟩

/-- Some edge list of the document leads to each node but the entry points. -/
def incoming (q : Quest) : List Finding :=
  let led := q.nodes.flatMap (·.declaredTargets)
  q.nodes.flatMap fun n => n.findIf (!n.isEntryPoint && !led.contains n.id) .noIncoming

/-- There is an entry point. -/
def entryPoint (q : Quest) : List Finding :=
  if q.entryPoints.isEmpty then [⟨.noEntryPoint, none⟩] else []

/-- No walk in the graph comes back to where it was. -/
def acyclic (q : Quest) : List Finding :=
  if q.graph.hasCycle q.nodeIds then [⟨.cycle, none⟩] else []

/-- Some edge of the graph leads to each node but the entry points. -/
def referenced (q : Quest) : List Finding :=
  let led := q.graph.targets
  q.nodes.flatMap fun n => n.findIf (!n.isEntryPoint && !led.contains n.id) .unreferenced

end QuestFlow.Findings

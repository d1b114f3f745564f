import QuestFlow.Graph.Adjacency
import QuestFlow.Graph.Unseen

/-!
# Finding a cycle

A depth-first search that keeps its path as a stack: each entry is an ID on the path and those of
its successors that have not been tried.  An ID that has been seen and is no longer on the stack
is done with.  The first edge that leads back onto the path closes a cycle, and the search stops
with it.

The search needs no bound.  Each step tries one successor or leaves one ID; when an ID with a row
of its own is put on the stack, one row fewer is unseen, and an ID without a row brings no
successors with it.
-/

namespace QuestFlow.Adjacency

/-- The outcome of a search: the edge that closes a cycle, or all IDs seen without one. -/
inductive SearchOutcome where
  | closed (source target : Int)
  | acyclic (seen : List Int)
  deriving DecidableEq, Repr

/-- The successors on a stack that have not been tried. -/
def untried (stack : List (Int × List Int)) : List Int := stack.flatMap (·.2)

/-- Searches on from a path.  `seen` holds every ID that has been on the stack. -/
def search (g : Adjacency) (seen : List Int) : List (Int × List Int) → SearchOutcome
  | [] => .acyclic seen
  | (_, []) :: below => search g seen below
  | (id, next :: rest) :: below =>
    if next ∈ ((id, next :: rest) :: below).map (·.1) then .closed id next
    else if next ∈ seen then search g seen ((id, rest) :: below)
    else search g (next :: seen) ((next, g.successors next) :: (id, rest) :: below)
termination_by stack => (unseen (Groups.keys g) seen, 2 * (untried stack).length + stack.length)
decreasing_by
  · apply Prod.Lex.right
    simp only [untried, List.flatMap_cons, List.length_append, List.length_nil, List.length_cons]
    omega
  · apply Prod.Lex.right
    simp only [untried, List.flatMap_cons, List.length_append, List.length_cons]
    omega
  · rename_i fresh
    by_cases h : next ∈ Groups.keys g
    · apply Prod.Lex.left
      exact unseen_lt (fun x hx => List.mem_cons_of_mem _ hx) h fresh List.mem_cons_self
    · have nil : g.successors next = [] := Groups.get_eq_nil_of_notMem h
      have le : unseen (Groups.keys g) (next :: seen) ≤ unseen (Groups.keys g) seen :=
        unseen_le _ fun x hx => List.mem_cons_of_mem _ hx
      rcases Nat.lt_or_eq_of_le le with lt | eq
      · exact Prod.Lex.left _ _ lt
      · rw [eq]
        apply Prod.Lex.right
        simp only [untried, List.flatMap_cons, List.length_append, List.length_cons, nil,
          List.length_nil]
        omega

/-- Searches from each root in turn, skipping those that have been seen. -/
def searchFrom (g : Adjacency) (seen : List Int) : List Int → SearchOutcome
  | [] => .acyclic seen
  | root :: roots =>
    if root ∈ seen then searchFrom g seen roots
    else match search g (root :: seen) [(root, g.successors root)] with
      | .closed source target => .closed source target
      | .acyclic seen => searchFrom g seen roots

/-- The edge that closes the first cycle found from the roots, if there is a cycle. -/
def closingEdge? (g : Adjacency) (roots : List Int) : Option (Int × Int) :=
  match searchFrom g [] roots with
  | .closed source target => some (source, target)
  | .acyclic _ => none

/-- Whether a cycle can be reached from the roots. -/
def hasCycle (g : Adjacency) (roots : List Int) : Bool := (g.closingEdge? roots).isSome

end QuestFlow.Adjacency

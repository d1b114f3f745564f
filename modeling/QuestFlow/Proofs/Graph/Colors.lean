import Mathlib.Logic.Function.Basic
import QuestFlow.Proofs.Graph.Cycle

/-!
# The search for a cycle, by colors

`search` looks through its stack to find out whether an edge leads back onto the path.  A search
that colors the IDs need not look: an ID is white until it is seen, gray while it is on the path,
and black when it is done with, so that an edge into a gray ID closes a cycle.  The colors last from
one root to the next.

1. **The loop** — `paint` searches on from a path, and `paintFrom` from one root after another.
   An ID never turns white again, which is why the loop ends.
2. **What the colors say** — `Painted`: white is what has not been seen, and gray is exactly what is
   on the path.  Here it matters that the path has no ID twice: the ID that leaves it turns black,
   and must not be on it any longer.
3. **Two runs side by side** — `alike_paint` and `alike_paintFrom`: a search by colors ends with the
   edge that the other one ends with, or both run out having seen the same IDs.  Hence
   `backEdge?_eq`.
-/

namespace QuestFlow.Adjacency

/-! ## The loop -/

/-- How far a search has come with an ID. -/
inductive Color where
  | white
  | gray
  | black
  deriving DecidableEq, Repr

variable {g : Adjacency} {color : Int → Color} {seen path : List Int} {id : Int}

/-- The IDs with a row that are not white any longer. -/
def coloredRows (g : Adjacency) (color : Int → Color) : List Int :=
  (Groups.keys g).filter fun id => color id != .white

/-- A color other than white leaves no more rows white. -/
theorem coloredRows_update (g : Adjacency) {c : Color} (hc : c ≠ .white) :
    ∀ x ∈ g.coloredRows color, x ∈ g.coloredRows (Function.update color id c) := by
  intro x hx
  obtain ⟨hkey, hcolor⟩ := List.mem_filter.1 hx
  refine List.mem_filter.2 ⟨hkey, ?_⟩
  by_cases hid : x = id
  · subst hid
    simpa using hc
  · rwa [Function.update_of_ne hid]

/-- Searches on from a path.  The IDs on it are gray, and what has left it is black. -/
def paint (g : Adjacency) (color : Int → Color) :
    List (Int × List Int) → Except (Int × Int) (Int → Color)
  | [] => .ok color
  | (id, []) :: below => g.paint (Function.update color id .black) below
  | (id, next :: rest) :: below =>
    if color next = .gray then .error (id, next)
    else if color next = .white then
      g.paint (Function.update color next .gray) ((next, g.successors next) :: (id, rest) :: below)
    else g.paint color ((id, rest) :: below)
termination_by stack => (unseen (Groups.keys g) (g.coloredRows color),
  2 * (untried stack).length + stack.length)
decreasing_by
  · refine measure_of_shorter _ (g.coloredRows_update (by decide)) ?_
    simp [untried]
  · rename_i hwhite
    by_cases hkey : next ∈ Groups.keys g
    · refine Prod.Lex.left _ _ (unseen_lt (g.coloredRows_update (by decide)) hkey ?_ ?_)
      · simp [coloredRows, hwhite]
      · simp [coloredRows, hkey]
    · -- an ID without a row puts an entry on the stack that holds nothing to be tried
      have hnone : g.successors next = [] := Groups.get_eq_nil_of_notMem hkey
      refine measure_of_shorter _ (g.coloredRows_update (by decide)) ?_
      simp only [untried, List.flatMap_cons, List.length_append, List.length_cons, hnone,
        List.length_nil]
      omega
  · refine Prod.Lex.right _ ?_
    simp only [untried, List.flatMap_cons, List.length_append, List.length_cons]
    omega

/-- Searches from each root in turn that is still white. -/
def paintFrom (g : Adjacency) (color : Int → Color) :
    List Int → Except (Int × Int) (Int → Color)
  | [] => .ok color
  | root :: roots =>
    if color root = .white then
      match g.paint (Function.update color root .gray) [(root, g.successors root)] with
      | .error edge => .error edge
      | .ok color => g.paintFrom color roots
    else g.paintFrom color roots

/-- The edge that closes the first cycle that a search by colors finds from the roots. -/
def backEdge? (g : Adjacency) (roots : List Int) : Option (Int × Int) :=
  match g.paintFrom (fun _ => .white) roots with
  | .error edge => some edge
  | .ok _ => none

/-! ## What the colors say -/

/-- **The invariant of the colors.** -/
structure Painted (color : Int → Color) (seen path : List Int) : Prop where
  /-- white is what has not been seen -/
  white_iff : ∀ a, color a = .white ↔ a ∉ seen
  /-- gray is what is on the path -/
  gray_iff : ∀ a, color a = .gray ↔ a ∈ path
  /-- and nothing is on the path twice -/
  nodup : path.Nodup

/-- Before the search everything is white. -/
theorem Painted.start : Painted (fun _ => .white) [] [] := ⟨by simp, by simp, List.nodup_nil⟩

/-- A white ID is put on the path. -/
theorem Painted.enter (h : Painted color seen path) (hwhite : color id = .white) :
    Painted (Function.update color id .gray) (id :: seen) (id :: path) := by
  have hoff : id ∉ path := fun hmem => by
    rw [(h.gray_iff id).2 hmem] at hwhite
    cases hwhite
  refine ⟨fun a => ?_, fun a => ?_, List.nodup_cons.2 ⟨hoff, h.nodup⟩⟩
  · by_cases ha : a = id
    · simp [ha]
    · rw [Function.update_of_ne ha, h.white_iff, List.mem_cons, not_or]
      exact ⟨fun hnew => ⟨ha, hnew⟩, And.right⟩
  · by_cases ha : a = id
    · simp [ha]
    · rw [Function.update_of_ne ha, h.gray_iff, List.mem_cons]
      exact ⟨.inr, fun hmem => hmem.resolve_left ha⟩

/-- The ID on top of the path is done with. -/
theorem Painted.leave (h : Painted color seen (id :: path)) :
    Painted (Function.update color id .black) seen path := by
  obtain ⟨hoff, hnodup⟩ := List.nodup_cons.1 h.nodup
  have hgray : color id = .gray := (h.gray_iff id).2 List.mem_cons_self
  refine ⟨fun a => ?_, fun a => ?_, hnodup⟩
  · by_cases ha : a = id
    · have hseen : id ∈ seen := by
        by_contra hnew
        rw [(h.white_iff id).2 hnew] at hgray
        cases hgray
      simp [ha, hseen]
    · rw [Function.update_of_ne ha, h.white_iff]
  · by_cases ha : a = id
    · simp [ha, hoff]
    · rw [Function.update_of_ne ha, h.gray_iff, List.mem_cons]
      exact ⟨fun hmem => hmem.resolve_left ha, .inr⟩

/-! ## Two runs side by side -/

/-- Two searches end alike: both with one edge, or both having seen the same IDs. -/
inductive Alike : Except (Int × Int) (Int → Color) → SearchOutcome → Prop
  | closed (source target : Int) : Alike (.error (source, target)) (.closed source target)
  | acyclic {color : Int → Color} {seen : List Int} (h : Painted color seen []) :
    Alike (.ok color) (.acyclic seen)

/-- **The two runs stay alike**: each looks at the same edge next, and both treat it the same. -/
theorem alike_paint {stack : List (Int × List Int)}
    (h : Painted color seen (stack.map (·.1))) :
    Alike (g.paint color stack) (g.search seen stack) := by
  fun_induction search g seen stack generalizing color with
  | case1 seen =>
    rw [paint]
    exact .acyclic h
  | case2 seen id below ih =>
    rw [paint]
    exact ih h.leave
  | case3 seen id next rest below hback =>
    rw [paint, if_pos ((h.gray_iff next).2 hback)]
    exact .closed id next
  | case4 seen id next rest below hoff hseen ih =>
    have hgray : color next ≠ .gray := fun hgray => hoff ((h.gray_iff next).1 hgray)
    have hwhite : color next ≠ .white := fun hwhite => (h.white_iff next).1 hwhite hseen
    rw [paint, if_neg hgray, if_neg hwhite]
    exact ih h
  | case5 seen id next rest below hoff hfresh ih =>
    have hgray : color next ≠ .gray := fun hgray => hoff ((h.gray_iff next).1 hgray)
    have hwhite : color next = .white := (h.white_iff next).2 hfresh
    rw [paint, if_neg hgray, if_pos hwhite]
    exact ih (h.enter hwhite)

theorem alike_paintFrom {roots : List Int} (h : Painted color seen []) :
    Alike (g.paintFrom color roots) (g.searchFrom seen roots) := by
  induction roots generalizing color seen with
  | nil => exact .acyclic h
  | cons root roots ih =>
    rw [paintFrom, searchFrom]
    by_cases hseen : root ∈ seen
    · have hwhite : color root ≠ .white := fun hwhite => (h.white_iff root).1 hwhite hseen
      rw [if_neg hwhite, if_pos hseen]
      exact ih h
    · have hwhite : color root = .white := (h.white_iff root).2 hseen
      have hrun : Alike (g.paint (Function.update color root .gray) [(root, g.successors root)])
          (g.search (root :: seen) [(root, g.successors root)]) := alike_paint (h.enter hwhite)
      rw [if_pos hwhite, if_neg hseen]
      generalize g.paint _ _ = painted, g.search _ _ = searched at hrun ⊢
      cases hrun with
      | closed source target => exact .closed source target
      | acyclic h => exact ih h

/-- **Both searches report the same edge**, if they report one. -/
theorem backEdge?_eq (g : Adjacency) (roots : List Int) :
    g.backEdge? roots = g.closingEdge? roots := by
  have hrun : Alike (g.paintFrom (fun _ => .white) roots) (g.searchFrom [] roots) :=
    alike_paintFrom .start
  rw [backEdge?, closingEdge?]
  generalize g.paintFrom _ _ = painted, g.searchFrom _ _ = searched at hrun ⊢
  cases hrun <;> rfl

end QuestFlow.Adjacency

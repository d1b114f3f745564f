import QuestFlow.Proofs.Graph.Gathering
import QuestFlow.Proofs.Graph.Layers

/-!
# The searches by distance, with a queue

`explore` goes through a graph layer by layer.  A queue does the same without layers: the ID at its
front is taken off, and what that ID leads to is put at its end.  Two such loops are shown to find
what the layers find, in the same order.

1. **New IDs** — `freshIn` goes through a list and takes each ID that may be entered, the first time
   that it comes up.  The next layer is what is new among all that the layer leads to
   (`nextLayer_eq_freshIn`), and that can be found one ID after another (`nextLayer_concat`).
2. **A queue without repeats** — `drain` marks an ID when it is queued.  The crux is
   `drain_nextLayer`: while a layer is being taken off the front, the part of the next layer that
   belongs to what is already gone stands at the end.  So a queue lists the layers one after another
   (`drain_eq_flatten`), and what leaves it never comes back (`nodup_drain`).
3. **A queue with repeats** — `nearestInQueue?` queues whatever an ID leads to and marks an ID only
   when it is taken off, so that an ID may wait in it several times.  Whoever leaves out what is
   waiting for the second time is back at a queue without repeats (`nearestInQueue?_eq_drain`).
4. **The two loops** — `nearestInQueue?_eq` and `collectInQueue_eq` say that they answer as
   `nearest?` and `leadingTo` do.

Both loops end.  A queue gets longer when an ID is seen for the first time, but then there are fewer
IDs left to be seen; otherwise it gets shorter.
-/

namespace QuestFlow.Adjacency

variable {g : Adjacency} {enter : Int → Bool} {seen seen' layer queue : List Int} {id : Int}

/-! ## New IDs -/

/-- The IDs that may be entered and have not been seen, each where it comes up first. -/
def freshIn (enter : Int → Bool) (seen : List Int) : List Int → List Int
  | [] => []
  | id :: ids =>
    if enter id && !seen.contains id then id :: freshIn enter (id :: seen) ids
    else freshIn enter seen ids

/-- Taking IDs one after another is filtering them and then dropping the repeats. -/
theorem freshIn_eq (ids : List Int) : freshIn enter seen ids =
    (ids.filter fun id => enter id && !seen.contains id).eraseDups := by
  induction ids generalizing seen with
  | nil => rfl
  | cons id ids ih =>
    rw [freshIn, List.filter_cons]
    split
    · rw [List.eraseDups_cons, List.filter_filter, ih]
      refine congrArg (fun rest => id :: rest.eraseDups) (List.filter_congr fun x _ => ?_)
      by_cases hx : x = id <;> simp [hx]
    · exact ih

theorem mem_freshIn {ids : List Int} {x : Int} :
    x ∈ freshIn enter seen ids ↔ x ∈ ids ∧ enter x = true ∧ x ∉ seen := by
  simp [freshIn_eq]

theorem nodup_freshIn (enter : Int → Bool) (seen ids : List Int) :
    (freshIn enter seen ids).Nodup := by
  rw [freshIn_eq]
  exact nodup_eraseDups _

/-- What has been seen counts only as far as it may be entered. -/
theorem freshIn_congr (hseen : ∀ x, enter x = true → (x ∈ seen' ↔ x ∈ seen)) (ids : List Int) :
    freshIn enter seen' ids = freshIn enter seen ids := by
  rw [freshIn_eq, freshIn_eq]
  refine congrArg List.eraseDups (List.filter_congr fun x _ => ?_)
  cases hx : enter x with
  | false => rfl
  | true => simp [hseen x hx]

/-- What is new in a second list is what has been seen neither before nor in the first one. -/
theorem freshIn_append (as bs : List Int) : freshIn enter seen (as ++ bs) =
    freshIn enter seen as ++ freshIn enter (seen ++ as) bs := by
  induction as generalizing seen with
  | nil => rw [List.nil_append, List.append_nil]; rfl
  | cons a as ih =>
    rw [List.cons_append, freshIn, freshIn]
    split
    · have hsame : freshIn enter (a :: seen ++ as) bs = freshIn enter (seen ++ a :: as) bs :=
        freshIn_congr (fun x _ => by simp [or_left_comm]) bs
      rw [ih, hsame, List.cons_append]
    · rename_i hold
      have hsame : freshIn enter (seen ++ as) bs = freshIn enter (seen ++ a :: as) bs := by
        refine freshIn_congr (fun x hx => ?_) bs
        -- the ID in front cannot be entered, or it has been seen
        have ha : x = a → x ∈ seen := by
          rintro rfl
          simpa [hx] using hold
        simp only [List.mem_append, List.mem_cons]
        exact ⟨Or.imp_right .inr, fun h => h.elim .inl (Or.elim · (.inl ∘ ha) .inr)⟩
      rw [ih, hsame]

/-- The next layer is what is new among all that the layer leads to. -/
theorem nextLayer_eq_freshIn (g : Adjacency) (enter : Int → Bool) (seen layer : List Int) :
    g.nextLayer enter seen layer = freshIn enter seen (layer.flatMap g.successors) :=
  (freshIn_eq _).symm

/-- One more ID in a layer adds to the next layer what is new among its successors. -/
theorem nextLayer_concat (layer : List Int) (id : Int) :
    g.nextLayer enter seen (layer ++ [id]) = g.nextLayer enter seen layer ++
      freshIn enter (seen ++ g.nextLayer enter seen layer) (g.successors id) := by
  rw [nextLayer_eq_freshIn, nextLayer_eq_freshIn, List.flatMap_append, List.flatMap_singleton,
    freshIn_append]
  refine congrArg (_ ++ ·) (freshIn_congr (fun x hx => ?_) _)
  simp only [List.mem_append, mem_freshIn, hx, true_and]
  constructor
  · rintro (hold | hled)
    · exact .inl hold
    · by_cases hold : x ∈ seen
      · exact .inl hold
      · exact .inr ⟨hled, hold⟩
  · exact Or.imp_right And.left

/-! ## A queue without repeats -/

/-- An ID that is taken off leaves fewer targets unseen, or else a shorter queue. -/
theorem measure_freshIn (g : Adjacency) (enter : Int → Bool) (seen : List Int) (id : Int)
    (queue : List Int) : Prod.Lex (· < ·) (· < ·)
      (unseen g.targets (seen ++ freshIn enter seen (g.successors id)),
        (queue ++ freshIn enter seen (g.successors id)).length)
      (unseen g.targets seen, (id :: queue).length) := by
  cases hfresh : freshIn enter seen (g.successors id) with
  | nil =>
    rw [List.append_nil, List.append_nil]
    exact Prod.Lex.right _ (Nat.lt_succ_self _)
  | cons a rest =>
    have ha : a ∈ freshIn enter seen (g.successors id) := hfresh ▸ List.mem_cons_self
    obtain ⟨hedge, _, hnew⟩ := mem_freshIn.1 ha
    refine Prod.Lex.left _ _ (unseen_lt (fun x hx => List.mem_append_left _ hx)
      (mem_targets_of_mem_successors hedge) hnew ?_)
    exact List.mem_append_right _ List.mem_cons_self

/-- Takes the IDs off a queue one after another.  What is new among the successors of an ID is
marked as seen and put at the end. -/
def drain (g : Adjacency) (enter : Int → Bool) (seen : List Int) : List Int → List Int
  | [] => []
  | id :: queue =>
    let fresh := freshIn enter seen (g.successors id)
    id :: g.drain enter (seen ++ fresh) (queue ++ fresh)
termination_by queue => (unseen g.targets seen, queue.length)
decreasing_by exact measure_freshIn g enter seen id queue

/-- **While a layer is taken off the front**, the next layer grows at the end: what is there already
is the part that belongs to the IDs that are gone. -/
theorem drain_nextLayer (g : Adjacency) (enter : Int → Bool) (seen gone waiting : List Int) :
    g.drain enter (seen ++ g.nextLayer enter seen gone)
        (waiting ++ g.nextLayer enter seen gone) =
      waiting ++ g.drain enter (seen ++ g.nextLayer enter seen (gone ++ waiting))
        (g.nextLayer enter seen (gone ++ waiting)) := by
  induction waiting generalizing gone with
  | nil => rw [List.append_nil, List.nil_append, List.nil_append]
  | cons id waiting ih =>
    have hnext := ih (gone ++ [id])
    rw [nextLayer_concat, List.append_assoc gone, List.singleton_append] at hnext
    rw [List.cons_append, drain, List.append_assoc, List.append_assoc, hnext, List.cons_append]

/-- **A queue lists the layers** one after another. -/
theorem drain_eq_flatten (g : Adjacency) (enter : Int → Bool) (seen layer : List Int) :
    g.drain enter seen layer = (g.layersFrom enter seen layer).flatten := by
  have hlayer : ∀ seen layer, g.drain enter seen layer = layer ++
      g.drain enter (seen ++ g.nextLayer enter seen layer) (g.nextLayer enter seen layer) := by
    intro seen layer
    have hnone : g.nextLayer enter seen [] = [] := rfl
    simpa [hnone] using drain_nextLayer g enter seen [] layer
  induction seen, layer using layersFrom.induct g enter with
  | case1 seen layer hlast => rw [hlayer, layersFrom_of_last hlast, hlast, drain]; simp
  | case2 seen layer id ids hmore ih =>
    rw [hlayer, layersFrom_of_more hmore, hmore, List.flatten_cons, ih]

theorem explore_eq_drain (start : List Int) :
    g.explore enter start = g.drain enter start.eraseDups start.eraseDups :=
  (drain_eq_flatten g enter _ _).symm

/-- What is taken off was waiting, or it has never been seen before; and nothing is taken off
twice. -/
theorem nodup_drain (hnodup : queue.Nodup) (hseen : ∀ x ∈ queue, x ∈ seen) :
    (g.drain enter seen queue).Nodup ∧
      ∀ x ∈ g.drain enter seen queue, x ∈ queue ∨ x ∉ seen := by
  fun_induction drain g enter seen queue with
  | case1 seen => simp
  | case2 seen id queue fresh ih =>
    obtain ⟨hid, hnodup⟩ := List.nodup_cons.1 hnodup
    obtain ⟨hidSeen, hseen⟩ := List.forall_mem_cons.1 hseen
    have hnew : ∀ x ∈ fresh, x ∉ seen := fun x hx => (mem_freshIn.1 hx).2.2
    have hqueue : (queue ++ fresh).Nodup := by
      rw [List.nodup_append]
      exact ⟨hnodup, nodup_freshIn enter seen _, fun a ha b hb hab => hnew b hb (hab ▸ hseen a ha)⟩
    obtain ⟨hlater, hfrom⟩ := ih hqueue fun x hx => by
      rcases List.mem_append.1 hx with hx | hx
      · exact List.mem_append_left _ (hseen x hx)
      · exact List.mem_append_right _ hx
    refine ⟨List.nodup_cons.2 ⟨fun hagain => ?_, hlater⟩, fun x hx => ?_⟩
    · rcases hfrom id hagain with hwaits | hunseen
      · rcases List.mem_append.1 hwaits with hwaits | hwaits
        · exact hid hwaits
        · exact hnew id hwaits hidSeen
      · exact hunseen (List.mem_append_left _ hidSeen)
    · rcases List.mem_cons.1 hx with rfl | hx
      · exact .inl List.mem_cons_self
      · rcases hfrom x hx with hwaits | hunseen
        · rcases List.mem_append.1 hwaits with hwaits | hwaits
          · exact .inl (List.mem_cons_of_mem _ hwaits)
          · exact .inr (hnew x hwaits)
        · exact .inr fun hx => hunseen (List.mem_append_left _ hx)

/-- A search finds no ID twice. -/
theorem nodup_explore (g : Adjacency) (enter : Int → Bool) (start : List Int) :
    (g.explore enter start).Nodup := by
  rw [explore_eq_drain]
  exact (nodup_drain (nodup_eraseDups start) fun _ hx => hx).1

/-! ## A queue with repeats -/

section Nodes

variable {node? : Int → Option Node} {wanted : Node → Bool}

/-- Looks for a wanted node with a queue in which an ID may wait several times.  It is passed over
when it comes up again, and so is an ID that has no node. -/
def nearestInQueue? (g : Adjacency) (node? : Int → Option Node) (wanted : Node → Bool)
    (visited : List Int) : List Int → Option Node
  | [] => none
  | id :: queue =>
    if id ∈ visited then g.nearestInQueue? node? wanted visited queue
    else match node? id with
      | none => g.nearestInQueue? node? wanted (id :: visited) queue
      | some n =>
        if wanted n then some n
        else g.nearestInQueue? node? wanted (id :: visited) (queue ++ g.successors id)
termination_by queue => (unseen (Groups.keys g) visited, queue.length)
decreasing_by
  · exact Prod.Lex.right _ (Nat.lt_succ_self _)
  · exact measure_of_shorter _ (fun x hx => List.mem_cons_of_mem _ hx) (Nat.lt_succ_self _)
  · rename_i hnew
    have hsub : ∀ x ∈ visited, x ∈ id :: visited := fun x hx => List.mem_cons_of_mem _ hx
    by_cases hkey : id ∈ Groups.keys g
    · exact Prod.Lex.left _ _ (unseen_lt hsub hkey hnew List.mem_cons_self)
    · -- an ID without a row brings nothing into the queue
      have hnone : g.successors id = [] := Groups.get_eq_nil_of_notMem hkey
      rw [hnone, List.append_nil]
      exact measure_of_shorter _ hsub (Nat.lt_succ_self _)

/-- The node of an ID, if it is wanted. -/
def wantedAt? (node? : Int → Option Node) (wanted : Node → Bool) (id : Int) : Option Node :=
  match node? id with
  | some n => if wanted n then some n else none
  | none => none

/-- **Repeats change nothing.**  A queue with repeats ends at the first wanted node that comes off
the queue in which every known ID waits once. -/
theorem nearestInQueue?_eq_drain {visited : List Int}
    (hseen : ∀ x, (node? x).isSome = true → (x ∈ seen ↔ x ∈ visited ∨ x ∈ queue)) :
    g.nearestInQueue? node? wanted visited queue =
      (g.drain (fun id => (node? id).isSome) seen
        (freshIn (fun id => (node? id).isSome) visited queue)).findSome?
          (wantedAt? node? wanted) := by
  fun_induction nearestInQueue? g node? wanted visited queue generalizing seen with
  | case1 visited => rw [freshIn, drain]; rfl
  | case2 visited id queue hold ih =>
    rw [ih fun x hx => by rw [hseen x hx, List.mem_cons]; grind, freshIn, if_neg (by simp [hold])]
  | case3 visited id queue hnew hnode ih =>
    have hunknown : ∀ x, (node? x).isSome = true → x ≠ id := by
      rintro x hx rfl
      rw [hnode] at hx
      cases hx
    have hsame : freshIn (fun id => (node? id).isSome) (id :: visited) queue =
        freshIn (fun id => (node? id).isSome) visited queue :=
      freshIn_congr (fun x hx => by simp [hunknown x hx]) queue
    rw [ih fun x hx => by rw [hseen x hx]; simp [hunknown x hx], hsame, freshIn,
      if_neg (by simp [hnode])]
  | case4 visited id queue hnew n hnode hwanted =>
    rw [freshIn, if_pos (by simp [hnode, hnew]), drain, List.findSome?_cons, wantedAt?, hnode]
    simp [hwanted]
  | case5 visited id queue hnew n hnode hwanted ih =>
    have hwaits : ∀ x, (node? x).isSome = true → (x ∈ seen ↔ x ∈ id :: visited ++ queue) := by
      intro x hx
      rw [hseen x hx]
      simp only [List.cons_append, List.mem_cons, List.mem_append]
      exact or_left_comm
    have hfresh : freshIn (fun id => (node? id).isSome) (id :: visited ++ queue)
        (g.successors id) = freshIn (fun id => (node? id).isSome) seen (g.successors id) :=
      freshIn_congr (fun x hx => (hwaits x hx).symm) _
    rw [freshIn, if_pos (by simp [hnode, hnew]), drain, List.findSome?_cons]
    have hpass : wantedAt? node? wanted id = none := by simp [wantedAt?, hnode, hwanted]
    rw [hpass]
    dsimp only
    rw [← hfresh, ← freshIn_append]
    refine ih fun x hx => ?_
    rw [hfresh, List.mem_append, mem_freshIn, hwaits x hx]
    simp only [List.mem_append, List.mem_cons]
    grind

/-- **A queue finds the nearest node** that a search by layers finds. -/
theorem nearestInQueue?_eq (g : Adjacency) (node? : Int → Option Node) (wanted : Node → Bool)
    (start : List Int) :
    g.nearestInQueue? node? wanted [] start = g.nearest? node? wanted start := by
  have hstart : freshIn (fun id => (node? id).isSome) [] start =
      (start.filter fun id => (node? id).isSome).eraseDups := by
    rw [freshIn_eq]
    simp
  have hknown : ∀ x, (node? x).isSome = true →
      (x ∈ (start.filter fun id => (node? id).isSome).eraseDups ↔ x ∈ [] ∨ x ∈ start) := by
    intro x hx
    simp [hx]
  rw [nearestInQueue?_eq_drain hknown, hstart, nearest?, explore_eq_drain]
  rfl

/-- Gathers nodes with a queue: what is new among the successors of an ID is put at the end of it,
and the nodes of the new IDs are put at the end of the chain. -/
def collectInQueue (g : Adjacency) (node? : Int → Option Node) (admitted : Node → Bool)
    (visited : List Int) (chain : List Node) : List Int → List Node
  | [] => chain
  | id :: queue =>
    let fresh := freshIn (fun id => (node? id).any admitted) visited (g.successors id)
    g.collectInQueue node? admitted (visited ++ fresh) (chain ++ fresh.filterMap node?)
      (queue ++ fresh)
termination_by queue => (unseen g.targets visited, queue.length)
decreasing_by exact measure_freshIn g _ visited id queue

/-- What is put into the queue later on are the nodes that come to the chain. -/
theorem exists_collectInQueue_eq (g : Adjacency) (node? : Int → Option Node)
    (admitted : Node → Bool) (visited : List Int) (chain : List Node) (queue : List Int) :
    ∃ later, g.drain (fun id => (node? id).any admitted) visited queue = queue ++ later ∧
      g.collectInQueue node? admitted visited chain queue = chain ++ later.filterMap node? := by
  fun_induction collectInQueue g node? admitted visited chain queue with
  | case1 visited chain => exact ⟨[], by rw [drain]; rfl, by simp⟩
  | case2 visited chain id queue fresh ih =>
    obtain ⟨later, hdrain, hchain⟩ := ih
    refine ⟨fresh ++ later, ?_, ?_⟩
    · rw [drain, hdrain, List.append_assoc, List.cons_append]
    · rw [hchain, List.filterMap_append, List.append_assoc]

/-- **A queue gathers the nodes** that a search by layers gathers. -/
theorem collectInQueue_eq (g : Adjacency) (node? : Int → Option Node) (admitted : Node → Bool)
    (n : Node) :
    g.collectInQueue node? admitted [n.id] [n] [n.id] = g.leadingTo node? admitted n := by
  obtain ⟨later, hdrain, hchain⟩ := exists_collectInQueue_eq g node? admitted [n.id] [n] [n.id]
  have hexplore : g.explore (fun id => (node? id).any admitted) [n.id] = n.id :: later := by
    rw [explore_eq_drain]
    exact hdrain
  rw [hchain, leadingTo, hexplore]
  rfl

end Nodes

end QuestFlow.Adjacency

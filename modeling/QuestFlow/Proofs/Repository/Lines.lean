import QuestFlow.Issue
import QuestFlow.Proofs.Quest.Identifier

/-!
# Whose a line is

A line of a report begins with its owner: a quest, a node, both of them, or the repository as a
whole.  Behind it comes the message, which can be any text, so the owner has to be told from the
characters in front of the message alone.

1. **Two delimiters** — a quest ID has no closing bracket in it (`QuestId.bracket_notMem`), and a
   number has no colon (`colon_notMem_numeral`).  So the label in brackets ends at the first closing
   bracket, and the number of a node at the first colon behind it.
2. **What a line is made of** — `toList_line`: the label in brackets, if there is one, then the
   node, if there is one, then the message.  Whatever the message, the node and the message can be
   told from the text behind the label (`tail_injective`), and all three from the whole
   (`parts_eq_of_line_eq`).
3. **Where two owners look alike** — the label of the repository is one that a quest can have as
   its ID.  `line_eq_iff`: two lines are the same just for the same issue, and for an issue of the
   repository and one of the quest with that ID, if they have the same message and no node.
-/

namespace QuestFlow

namespace QuestId

variable {cs : List Char}

/-- No closing bracket stands in what either gate admits as an ID. -/
theorem bracket_notMem (h : admits cs = true) : ']' ∉ cs := by
  have hpart : ∀ (c : Char) (body : List Char), isInitial c = true →
      (∀ d ∈ body, isPart d = true) → ']' ∉ c :: body := by
    intro c body hc hbody hmem
    rcases List.mem_cons.1 hmem with rfl | hmem
    · exact absurd hc (by decide)
    · exact absurd (hbody ']' hmem) (by decide)
  rcases admits_iff.1 h with ⟨c, body, rfl, hc, hbody⟩ | ⟨c, body, rfl, hc, hbody⟩
  · rw [List.append_nil]
    exact hpart c body hc hbody
  · rw [List.mem_append]
    rintro (hmem | hmem)
    · exact hpart c body hc hbody hmem
    · exact absurd hmem (by decide)

/-- Something stands in it. -/
theorem ne_empty_of_admits {id : String} (h : admits id.toList = true) : id ≠ "" := by
  rintro rfl
  exact absurd h (by decide)

end QuestId

namespace Issue

variable {i j : Issue}

/-! ## Two delimiters -/

/-- An issue that belongs to a quest belongs to one with an ID that some gate admits. -/
def Named (i : Issue) : Prop := ∀ id, i.quest = some id → QuestId.admits id.toList = true

theorem isDigit_of_mem_repr {m : Nat} {c : Char} (h : c ∈ m.repr.toList) : c.isDigit = true := by
  rw [Nat.toList_repr] at h
  exact Nat.isDigit_of_mem_toDigits (by decide) (by decide) h

theorem numeral_negSucc (m : Nat) :
    (toString (Int.negSucc m)).toList = '-' :: (m + 1).repr.toList := by
  change ("-" ++ (m + 1).repr).toList = _
  rw [String.toList_append]
  rfl

/-- A number is made of digits and a dash. -/
theorem mem_numeral {n : Int} {c : Char} (h : c ∈ (toString n).toList) :
    c.isDigit = true ∨ c = '-' := by
  cases n with
  | ofNat m => exact .inl (isDigit_of_mem_repr h)
  | negSucc m =>
    rw [numeral_negSucc] at h
    rcases List.mem_cons.1 h with hdash | hmem
    · exact .inr hdash
    · exact .inl (isDigit_of_mem_repr hmem)

/-- **A number is told by its digits**, and by the dash where there is one. -/
theorem eq_of_numeral_eq {m n : Int} (h : (toString m).toList = (toString n).toList) : m = n := by
  have hdigits : ∀ m n : Nat, m.repr.toList = n.repr.toList → m = n := by
    intro m n hsame
    rw [Nat.toList_repr, Nat.toList_repr] at hsame
    have hvalue := congrArg (Nat.ofDigitChars 10 · 0) hsame
    simpa only [Nat.ofDigitChars_toDigits (show 1 < 10 by decide) (Nat.le_refl 10)] using hvalue
  have hdash : ∀ (m : Nat) (cs : List Char), m.repr.toList ≠ '-' :: cs := by
    intro m cs hsame
    have hmem : '-' ∈ m.repr.toList := hsame ▸ List.mem_cons_self
    exact absurd (isDigit_of_mem_repr hmem) (by decide)
  cases m with
  | ofNat m =>
    cases n with
    | ofNat n => exact congrArg Int.ofNat (hdigits m n h)
    | negSucc n => exact absurd (h.trans (numeral_negSucc n)) (hdash m _)
  | negSucc m =>
    cases n with
    | ofNat n => exact absurd (h.symm.trans (numeral_negSucc m)) (hdash n _)
    | negSucc n =>
      rw [numeral_negSucc, numeral_negSucc] at h
      exact congrArg Int.negSucc (Nat.succ.inj (hdigits _ _ (List.cons.inj h).2))

theorem colon_notMem_numeral (n : Int) : ':' ∉ (toString n).toList := by
  intro hmem
  rcases mem_numeral hmem with hdigit | hdash
  · exact absurd hdigit (by decide)
  · exact absurd hdash (by decide)

/-- What stands before a delimiter, and does not have it, is told by the whole. -/
theorem delimited_injective {d : Char} {before before' after after' : List Char}
    (hbefore : d ∉ before) (hbefore' : d ∉ before')
    (h : before ++ d :: after = before' ++ d :: after') : before = before' ∧ after = after' := by
  induction before generalizing before' with
  | nil =>
    cases before' with
    | nil => exact ⟨rfl, (List.cons.inj h).2⟩
    | cons c before' =>
      obtain ⟨rfl, -⟩ := List.cons.inj h
      exact absurd List.mem_cons_self hbefore'
  | cons c before ih =>
    cases before' with
    | nil =>
      obtain ⟨rfl, -⟩ := List.cons.inj h
      exact absurd List.mem_cons_self hbefore
    | cons c' before' =>
      obtain ⟨rfl, hrest⟩ := List.cons.inj h
      rw [List.mem_cons, not_or] at hbefore hbefore'
      obtain ⟨rfl, rfl⟩ := ih hbefore.2 hbefore'.2 hrest
      exact ⟨rfl, rfl⟩

/-- A number is told by its digits, and a colon ends it. -/
theorem numeral_injective {m n : Int} {xs ys : List Char}
    (h : (toString m).toList ++ ':' :: xs = (toString n).toList ++ ':' :: ys) :
    m = n ∧ xs = ys := by
  obtain ⟨hnumeral, hrest⟩ :=
    delimited_injective (colon_notMem_numeral m) (colon_notMem_numeral n) h
  exact ⟨eq_of_numeral_eq hnumeral, hrest⟩

/-! ## What a line is made of -/

/-- What stands in brackets: the quest, or the label of the repository where there is no node. -/
def label? (i : Issue) : Option String :=
  match i.quest, i.node with
  | some id, _ => some id
  | none, none => some crossQuestLabel
  | none, some _ => none

/-- The node, and behind it the message. -/
def tail (node : Option Int) (message : String) : List Char :=
  match node with
  | some n => "Node ".toList ++ ((toString n).toList ++ ':' :: ' ' :: message.toList)
  | none => ':' :: ' ' :: message.toList

/-- **A line** is a label in brackets, if there is one, and what stands behind it.  A blank comes
between the label and a node. -/
theorem toList_line (hnamed : i.Named) : i.line.toList =
    match i.label? with
    | some label => '[' :: (label.toList ++ ']' :: ((i.node.elim [] fun _ => [' ']) ++
        tail i.node i.message))
    | none => tail i.node i.message := by
  obtain ⟨message, node, quest⟩ := i
  cases quest with
  | none => cases node <;> simp [line, label?, tail]
  | some id =>
    have hne : id ≠ "" := QuestId.ne_empty_of_admits (hnamed id rfl)
    have hkept : (some id).filter (fun s => s != "") = some id := by
      rw [Option.filter_some, if_pos (bne_iff_ne.2 hne)]
    cases node <;> simp [line, label?, tail, hkept]

/-- The node and the message can be told from the text behind the label. -/
theorem tail_injective {node node' : Option Int} {message message' : String}
    (h : tail node message = tail node' message') : node = node' ∧ message = message' := by
  cases node with
  | none =>
    cases node' with
    | none =>
      have hmessage : message.toList = message'.toList := (List.cons.inj (List.cons.inj h).2).2
      exact ⟨rfl, String.toList_inj.1 hmessage⟩
    | some n => exact absurd (List.cons.inj h).1 (by decide)
  | some m =>
    cases node' with
    | none => exact absurd (List.cons.inj h).1 (by decide)
    | some n =>
      obtain ⟨rfl, hmessage⟩ := numeral_injective (List.append_cancel_left h)
      exact ⟨rfl, String.toList_inj.1 (List.cons.inj hmessage).2⟩

/-- A line without a label begins with the word for a node. -/
theorem tail_ne_bracket (node : Option Int) (message : String) (rest : List Char) :
    tail node message ≠ '[' :: rest := by
  intro h
  cases node with
  | none => exact absurd (List.cons.inj h).1 (by decide)
  | some n => exact absurd (List.cons.inj h).1 (by decide)

/-- No closing bracket stands in a label. -/
theorem bracket_notMem_label (hnamed : i.Named) {label : String} (h : i.label? = some label) :
    ']' ∉ label.toList := by
  obtain ⟨message, node, quest⟩ := i
  cases quest with
  | some id =>
    obtain rfl : id = label := Option.some.inj h
    exact QuestId.bracket_notMem (hnamed id rfl)
  | none =>
    cases node with
    | some n => cases h
    | none =>
      obtain rfl : crossQuestLabel = label := Option.some.inj h
      decide

/-- A blank or a colon tells whether a node follows. -/
theorem spaced_tail_injective {node node' : Option Int} {message message' : String}
    (h : (node.elim [] fun _ => [' ']) ++ tail node message =
      (node'.elim [] fun _ => [' ']) ++ tail node' message') :
    node = node' ∧ message = message' := by
  cases node with
  | none =>
    cases node' with
    | none => exact tail_injective h
    | some n => exact absurd (List.cons.inj h).1 (by decide)
  | some m =>
    cases node' with
    | none => exact absurd (List.cons.inj h).1 (by decide)
    | some n => exact tail_injective (List.cons.inj h).2

/-- **The same line** has the same label, the same node and the same message. -/
theorem parts_eq_of_line_eq (hi : i.Named) (hj : j.Named) (h : i.line = j.line) :
    i.label? = j.label? ∧ i.node = j.node ∧ i.message = j.message := by
  have hlines : i.line.toList = j.line.toList := congrArg String.toList h
  rw [toList_line hi, toList_line hj] at hlines
  cases hli : i.label? with
  | none =>
    cases hlj : j.label? with
    | none =>
      rw [hli, hlj] at hlines
      exact ⟨rfl, tail_injective hlines⟩
    | some label =>
      rw [hli, hlj] at hlines
      exact absurd hlines (tail_ne_bracket _ _ _)
  | some label =>
    cases hlj : j.label? with
    | none =>
      rw [hli, hlj] at hlines
      exact absurd hlines.symm (tail_ne_bracket _ _ _)
    | some label' =>
      rw [hli, hlj] at hlines
      -- the first closing bracket ends both labels
      obtain ⟨hlabel, hrest⟩ := delimited_injective
        (bracket_notMem_label hi hli) (bracket_notMem_label hj hlj) (List.cons.inj hlines).2
      exact ⟨congrArg some (String.toList_inj.1 hlabel), spaced_tail_injective hrest⟩

/-! ## Where two owners look alike -/

/-- One issue is about the repository as a whole, and the other one about the quest that has the
label of the repository as its ID. -/
structure LooksLike (i j : Issue) : Prop where
  message : i.message = j.message
  node : i.node = none ∧ j.node = none
  quest : i.quest = none ∧ j.quest = some crossQuestLabel

theorem LooksLike.line_eq (h : LooksLike i j) : i.line = j.line := by
  obtain ⟨message, node, quest⟩ := i
  obtain ⟨message', node', quest'⟩ := j
  obtain ⟨rfl, ⟨rfl, rfl⟩, rfl, rfl⟩ := h
  rfl

/-- **A line tells whose it is**, but for a quest that has the label of the repository as its ID. -/
theorem line_eq_iff (i j : Issue) (hi : i.Named) (hj : j.Named) :
    i.line = j.line ↔ i = j ∨ LooksLike i j ∨ LooksLike j i := by
  constructor
  · intro h
    obtain ⟨hlabel, hnode, hmessage⟩ := parts_eq_of_line_eq hi hj h
    obtain ⟨message, node, quest⟩ := i
    obtain ⟨message', node', quest'⟩ := j
    obtain rfl : node = node' := hnode
    obtain rfl : message = message' := hmessage
    cases quest with
    | some id =>
      cases quest' with
      | some id' =>
        obtain rfl : id = id' := Option.some.inj hlabel
        exact .inl rfl
      | none =>
        cases node with
        | some n => cases hlabel
        | none =>
          obtain rfl : id = crossQuestLabel := Option.some.inj hlabel
          exact .inr (.inr ⟨rfl, ⟨rfl, rfl⟩, rfl, rfl⟩)
    | none =>
      cases quest' with
      | none => exact .inl rfl
      | some id' =>
        cases node with
        | some n => cases hlabel
        | none =>
          obtain rfl : crossQuestLabel = id' := Option.some.inj hlabel
          exact .inr (.inl ⟨rfl, ⟨rfl, rfl⟩, rfl, rfl⟩)
  · rintro (rfl | h | h)
    · rfl
    · exact h.line_eq
    · exact h.line_eq.symm

/-- An issue about the tenth node of a quest, and one about its first node that begins with a
zero. -/
theorem line_ne_of_node : (Issue.mk "0: dead end" (some 1) (some "Q")).line ≠
    (Issue.mk "dead end" (some 10) (some "Q")).line := by
  have hnamed : QuestId.admits "Q".toList = true := by decide
  have hi : (Issue.mk "0: dead end" (some 1) (some "Q")).Named := by
    rintro _ ⟨rfl⟩
    exact hnamed
  have hj : (Issue.mk "dead end" (some 10) (some "Q")).Named := by
    rintro _ ⟨rfl⟩
    exact hnamed
  intro h
  rcases (line_eq_iff _ _ hi hj).1 h with heq | hlooks | hlooks
  · exact absurd (congrArg Issue.node heq) (by decide)
  · exact absurd hlooks.node.1 (by decide)
  · exact absurd hlooks.node.1 (by decide)

/-- The quest CROSS-QUEST can be one, and its lines can be those of the repository. -/
theorem line_of_crossQuest : ¬ ∀ i j : Issue, i.Named → j.Named → i.line = j.line → i = j := by
  intro hall
  have hi : (Issue.mk "dead end" none none).Named := by
    rintro _ ⟨⟩
  have hj : (Issue.mk "dead end" none (some "CROSS-QUEST")).Named := by
    rintro _ ⟨rfl⟩
    decide
  have heq := hall _ _ hi hj rfl
  cases heq

end Issue
end QuestFlow

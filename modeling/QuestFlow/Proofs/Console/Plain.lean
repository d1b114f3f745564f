import Mathlib.Algebra.Order.BigOperators.Group.List
import Mathlib.Algebra.Order.Group.Nat
import QuestFlow.Console.Output
import QuestFlow.Proofs.Console.Shortcode

/-!
# Lines that come out as they are

What is printed differs from what was given in three ways: shortcodes are replaced, control
characters are left out, and tabs are filled up with blanks.

1. **What is settled** — the output has neither tabs nor control characters in it
   (`notMem_settled`).  A text with none of them is left as it is, and colons are left in any case
   (`settled_eq_self`, `count_settled`).
2. **Plain text** — `PlainText`: a text without tabs, without control characters, and without a name
   between colons that is known.  `plainLines_eq_iff`: lines come out unchanged, one after the
   other, just if each of them is plain.  Seen from the whole output: a tab or a control character
   of any line would have to stand in it, and it has as many colons as the lines only if no line
   has lost any.
-/

namespace QuestFlow.Console

variable {cs : List Char} {c : Char}

/-! ## What is settled -/

/-- A tab becomes blanks. -/
theorem expandTabs_tab (gauge : Gauge) (cs : List Char) : ∃ blanks gauge',
    (∀ b ∈ blanks, b = ' ') ∧ expandTabs gauge ('\t' :: cs) = blanks ++ expandTabs gauge' cs := by
  refine ⟨_, _, ?_, by rw [expandTabs, if_pos rfl]⟩
  intro b hb
  rcases List.mem_cons.1 hb with rfl | hb
  · rfl
  · exact List.eq_of_mem_replicate hb

/-- Any other character stays, and only tabs look at the gauge. -/
theorem expandTabs_cons (hc : c ≠ '\t') (gauge : Gauge) (cs : List Char) :
    ∃ gauge', expandTabs gauge (c :: cs) = c :: expandTabs gauge' cs := by
  rw [expandTabs, if_neg hc]
  split
  · exact ⟨_, rfl⟩
  · exact ⟨_, rfl⟩

/-- Only blanks are new, and tabs are gone. -/
theorem mem_of_mem_expandTabs {gauge : Gauge} (h : c ∈ expandTabs gauge cs) :
    c = ' ' ∨ c ∈ cs ∧ c ≠ '\t' := by
  induction cs generalizing gauge with
  | nil => exact absurd h List.not_mem_nil
  | cons d cs ih =>
    have hlater : ∀ {gauge : Gauge}, c ∈ expandTabs gauge cs → c = ' ' ∨ c ∈ d :: cs ∧ c ≠ '\t' :=
      fun hmem => (ih hmem).imp_right fun hold => ⟨List.mem_cons_of_mem d hold.1, hold.2⟩
    by_cases hd : d = '\t'
    · subst hd
      obtain ⟨blanks, gauge', hblanks, hcs⟩ := expandTabs_tab gauge cs
      rw [hcs] at h
      rcases List.mem_append.1 h with hblank | hrest
      · exact .inl (hblanks c hblank)
      · exact hlater hrest
    · obtain ⟨gauge', hcs⟩ := expandTabs_cons hd gauge cs
      rw [hcs] at h
      rcases List.mem_cons.1 h with rfl | hrest
      · exact .inr ⟨List.mem_cons_self, hd⟩
      · exact hlater hrest

/-- Characters other than tabs and blanks are kept. -/
theorem count_expandTabs (hblank : c ≠ ' ') (htab : c ≠ '\t') (gauge : Gauge) (cs : List Char) :
    (expandTabs gauge cs).count c = cs.count c := by
  induction cs generalizing gauge with
  | nil => rfl
  | cons d cs ih =>
    by_cases hd : d = '\t'
    · subst hd
      obtain ⟨blanks, gauge', hblanks, hcs⟩ := expandTabs_tab gauge cs
      have hnone : blanks.count c = 0 :=
        List.count_eq_zero.2 fun hmem => hblank (hblanks c hmem)
      rw [hcs, List.count_append, hnone, Nat.zero_add, ih, List.count_cons_of_ne htab.symm]
    · obtain ⟨gauge', hcs⟩ := expandTabs_cons hd gauge cs
      rw [hcs, List.count_cons, List.count_cons, ih]

theorem expandTabs_eq_self (htab : '\t' ∉ cs) (gauge : Gauge) : expandTabs gauge cs = cs := by
  induction cs generalizing gauge with
  | nil => rfl
  | cons c cs ih =>
    rw [List.mem_cons, not_or] at htab
    have hc : c ≠ '\t' := fun heq => htab.1 heq.symm
    obtain ⟨gauge', hcs⟩ := expandTabs_cons hc gauge cs
    rw [hcs, ih htab.2]

/-- **Neither tabs nor control characters** are printed. -/
theorem notMem_settled (hc : c = '\t' ∨ isSilenced c = true) : c ∉ settled cs := by
  intro hmem
  rcases mem_of_mem_expandTabs hmem with rfl | ⟨hkept, htab⟩
  · exact absurd hc (by decide)
  · have hspoken := (List.mem_filter.1 hkept).2
    rcases hc with hc | hsilenced
    · exact htab hc
    · rw [hsilenced] at hspoken
      exact absurd hspoken (by decide)

theorem count_settled (cs : List Char) : (settled cs).count ':' = cs.count ':' := by
  rw [settled, count_expandTabs (by decide) (by decide), List.count_filter (by decide)]

/-- What has neither is printed as it is. -/
theorem settled_eq_self (htab : '\t' ∉ cs) (hspoken : ∀ c ∈ cs, isSilenced c = false) :
    settled cs = cs := by
  have hkept : cs.filter (fun c => !isSilenced c) = cs := by
    refine List.filter_eq_self.2 fun c hc => ?_
    rw [hspoken c hc]
    rfl
  rw [settled, hkept, expandTabs_eq_self htab]

/-! ## Plain text -/

/-- A text that a console does not change. -/
structure PlainText (s : String) : Prop where
  /-- no tab to be filled up -/
  tabs : '\t' ∉ s.toList
  /-- no control character to be left out -/
  controls : ∀ c ∈ s.toList, isSilenced c = false
  /-- no name to be replaced -/
  shortcodes : ∀ name, Named s.toList name → expandName? name = none

/-- A character that a console leaves as it is wherever it stands. -/
def isOrdinary (c : Char) : Bool := c != '\t' && c != ':' && !isSilenced c

/-- Text of ordinary characters is plain: without a colon no name is to be replaced. -/
theorem PlainText.of_ordinary {s : String} (h : ∀ c ∈ s.toList, isOrdinary c = true) :
    PlainText s where
  tabs := fun hmem => absurd (h '\t' hmem) (by decide)
  controls := by
    intro c hmem
    have hc := h c hmem
    rw [isOrdinary, Bool.and_eq_true, Bool.not_eq_true'] at hc
    exact hc.2
  shortcodes := by
    rintro name ⟨before, after, hs, -, -⟩
    have hcolon : ':' ∈ s.toList := by
      rw [hs]
      exact List.mem_append_right _ List.mem_cons_self
    exact absurd (h ':' hcolon) (by decide)

/-- Lines one after the other, each as it is. -/
def asIs (lines : List String) : String := String.join (lines.map (· ++ "\n"))

theorem toList_plainLine (s : String) :
    (plainLine s).toList = settled (expandShortcodes s.toList) ++ ['\n'] := by
  rw [plainLine, String.toList_ofList]

theorem plainLine_eq {s : String} (h : PlainText s) : plainLine s = s ++ "\n" := by
  refine String.toList_inj.1 ?_
  rw [toList_plainLine, expandShortcodes_eq_self h.shortcodes, settled_eq_self h.tabs h.controls,
    String.toList_append]
  rfl

theorem plainLines_append (lines others : List String) :
    plainLines (lines ++ others) = plainLines lines ++ plainLines others := by
  rw [plainLines, List.map_append, String.join_append]
  rfl

/-- No tab and no control character stands in the output. -/
theorem notMem_plainLines (hc : c = '\t' ∨ isSilenced c = true) (lines : List String) :
    c ∉ (plainLines lines).toList := by
  intro hmem
  rw [plainLines, String.toList_join, List.flatMap_map] at hmem
  obtain ⟨s, -, hmem⟩ := List.mem_flatMap.1 hmem
  rw [toList_plainLine] at hmem
  rcases List.mem_append.1 hmem with hsettled | hend
  · exact notMem_settled hc hsettled
  · obtain rfl := List.mem_singleton.1 hend
    exact absurd hc (by decide)

/-- Whatever stands in a line stands in the lines. -/
theorem mem_asIs {lines : List String} {s : String} (hs : s ∈ lines) (hc : c ∈ s.toList) :
    c ∈ (asIs lines).toList := by
  rw [asIs, String.toList_join, List.flatMap_map]
  refine List.mem_flatMap.2 ⟨s, hs, ?_⟩
  rw [String.toList_append]
  exact List.mem_append_left _ hc

/-- The colons in the output are those that are left in each line. -/
theorem count_plainLines (lines : List String) : (plainLines lines).toList.count ':' =
    (lines.map fun s => (expandShortcodes s.toList).count ':').sum := by
  rw [plainLines, String.toList_join, List.count_flatMap, List.map_map]
  refine congrArg List.sum (List.map_congr_left fun s _ => ?_)
  rw [Function.comp_apply, Function.comp_apply, toList_plainLine, List.count_append, count_settled]
  exact Nat.add_zero _

theorem count_asIs (lines : List String) :
    (asIs lines).toList.count ':' = (lines.map fun s => s.toList.count ':').sum := by
  rw [asIs, String.toList_join, List.count_flatMap, List.map_map]
  refine congrArg List.sum (List.map_congr_left fun s _ => ?_)
  rw [Function.comp_apply, Function.comp_apply, String.toList_append, List.count_append]
  exact Nat.add_zero _

/-- No line has lost a colon if there are as many as before. -/
theorem count_eq_of_plainLines_eq {lines : List String} (h : plainLines lines = asIs lines) :
    ∀ s ∈ lines, (expandShortcodes s.toList).count ':' = s.toList.count ':' := by
  intro s hs
  by_contra hne
  have hlt : (expandShortcodes s.toList).count ':' < s.toList.count ':' :=
    lt_of_le_of_ne (count_expandShortcodes_le _) hne
  have hsum := List.sum_lt_sum _ _ (fun s' _ => count_expandShortcodes_le (String.toList s'))
    ⟨s, hs, hlt⟩
  rw [← count_plainLines lines, ← count_asIs lines, h] at hsum
  exact absurd hsum (lt_irrefl _)

/-- **Lines come out as they are** just if all of them are plain. -/
theorem plainLines_eq_iff {lines : List String} :
    plainLines lines = asIs lines ↔ ∀ s ∈ lines, PlainText s := by
  constructor
  · intro h s hs
    have hkept : ∀ c, c = '\t' ∨ isSilenced c = true → c ∉ s.toList := by
      intro c hc hmem
      have hout : c ∈ (plainLines lines).toList := by
        rw [h]
        exact mem_asIs hs hmem
      exact notMem_plainLines hc lines hout
    exact {
      tabs := hkept '\t' (.inl rfl)
      controls := fun c hmem => Bool.eq_false_iff.2 fun hc => hkept c (.inr hc) hmem
      shortcodes := count_expandShortcodes_eq_iff.1 (count_eq_of_plainLines_eq h s hs) }
  · intro h
    rw [plainLines, asIs, List.map_congr_left fun s hs => plainLine_eq (h s hs)]

end QuestFlow.Console

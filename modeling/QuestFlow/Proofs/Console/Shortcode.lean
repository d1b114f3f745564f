import Mathlib.Algebra.Group.Nat.Even
import Mathlib.Algebra.Ring.Parity
import Mathlib.Data.List.TakeWhile
import QuestFlow.Console.Shortcode

/-!
# Which names are replaced

Shortcodes are found by reading on from colon to colon.  A colon does not always begin a name: with
a blank before the next colon it is an ordinary character, and behind a name the reading starts
anew, so the colon that ends one name does not begin another.

1. **Reading in pieces** — a text is nothing, or begins with another character than a colon, or with
   a colon that no other one follows before a blank or the end, or with two colons and what stands
   between them.  `expandShortcodes` goes on behind such a piece as at the start, and
   `piecewise_induction` is the induction that follows it.
2. **Whose turn a colon is** — `Named`: a name is looked up if it stands between two colons, has no
   blank, and an even number of colons stands before it in the same word.  What stands before a
   piece does not change whether that number is even (`even_pending_named` and its neighbours).
3. **Colons are used up** — no pictorial character has a colon in it (`colon_notMem_pictogram`), so
   replacing a name takes two colons away.  A text comes out as it is just if none of its names is
   known, and otherwise it has fewer colons (`count_expandShortcodes_eq_iff`).
-/

namespace QuestFlow.Console

variable {cs before name other rest : List Char} {b c : Char}

/-! ## Reading in pieces -/

/-- Neither blanks nor colons, as between the two colons of a shortcode. -/
def IsName (name : List Char) : Prop := ∀ c ∈ name, c ≠ ':' ∧ Text.isBlank c = false

instance (name : List Char) : Decidable (IsName name) :=
  List.decidableBAll (fun c => c ≠ ':' ∧ Text.isBlank c = false) name

theorem expandFrom_colon (acc : List Char) (hname : IsName name) (rest : List Char) :
    expandFrom acc (name ++ ':' :: rest) =
      (expandName? (acc.reverse ++ name)).getD (':' :: (acc.reverse ++ name) ++ [':']) ++
        expandShortcodes rest := by
  induction name generalizing acc with
  | nil =>
    rw [List.nil_append, expandFrom, if_pos rfl, List.append_nil]
    rfl
  | cons c name ih =>
    obtain ⟨⟨hcolon, hblank⟩, hname⟩ := List.forall_mem_cons.1 hname
    rw [List.cons_append, expandFrom, if_neg hcolon, hblank, if_neg Bool.false_ne_true, ih _ hname,
      List.reverse_cons, List.append_assoc, List.singleton_append]

theorem expandFrom_blank (acc : List Char) (hname : IsName name) (hb : Text.isBlank b = true)
    (rest : List Char) : expandFrom acc (name ++ b :: rest) =
      ':' :: (acc.reverse ++ name) ++ b :: expandShortcodes rest := by
  induction name generalizing acc with
  | nil =>
    have hcolon : b ≠ ':' := by
      rintro rfl
      exact absurd hb (by decide)
    rw [List.nil_append, expandFrom, if_neg hcolon, if_pos hb, List.append_nil]
    rfl
  | cons c name ih =>
    obtain ⟨⟨hcolon, hblank⟩, hname⟩ := List.forall_mem_cons.1 hname
    rw [List.cons_append, expandFrom, if_neg hcolon, hblank, if_neg Bool.false_ne_true, ih _ hname,
      List.reverse_cons, List.append_assoc, List.singleton_append]

theorem expandFrom_end (acc : List Char) (hname : IsName name) :
    expandFrom acc name = ':' :: (acc.reverse ++ name) := by
  induction name generalizing acc with
  | nil => rw [expandFrom, List.append_nil]
  | cons c name ih =>
    obtain ⟨⟨hcolon, hblank⟩, hname⟩ := List.forall_mem_cons.1 hname
    rw [expandFrom, if_neg hcolon, hblank, if_neg Bool.false_ne_true, ih _ hname,
      List.reverse_cons, List.append_assoc, List.singleton_append]

theorem expandShortcodes_cons (hc : c ≠ ':') (rest : List Char) :
    expandShortcodes (c :: rest) = c :: expandShortcodes rest := by
  rw [expandShortcodes, expandFrom.expandBetween, if_neg hc]
  rfl

theorem expandShortcodes_colon (rest : List Char) :
    expandShortcodes (':' :: rest) = expandFrom [] rest := by
  rw [expandShortcodes, expandFrom.expandBetween, if_pos rfl]

/-- What stands between two colons is looked up, and the reading goes on behind them. -/
theorem expandShortcodes_named (hname : IsName name) (rest : List Char) :
    expandShortcodes (':' :: (name ++ ':' :: rest)) =
      (expandName? name).getD (':' :: name ++ [':']) ++ expandShortcodes rest := by
  rw [expandShortcodes_colon, expandFrom_colon [] hname]
  rfl

/-- A colon with a blank before the next one is an ordinary character. -/
theorem expandShortcodes_blank (hname : IsName name) (hb : Text.isBlank b = true)
    (rest : List Char) : expandShortcodes (':' :: (name ++ b :: rest)) =
      ':' :: (name ++ b :: expandShortcodes rest) := by
  rw [expandShortcodes_colon, expandFrom_blank [] hname hb]
  rfl

/-- So is a colon without another one behind it. -/
theorem expandShortcodes_open (hname : IsName name) :
    expandShortcodes (':' :: name) = ':' :: name := by
  rw [expandShortcodes_colon, expandFrom_end [] hname]
  rfl

/-- What follows a colon: a name up to the end, to the next colon or to a blank. -/
theorem exists_name (cs : List Char) : IsName cs ∨
    (∃ name rest, cs = name ++ ':' :: rest ∧ IsName name) ∨
    ∃ name b rest, cs = name ++ b :: rest ∧ IsName name ∧ Text.isBlank b = true := by
  have hnil : IsName [] := List.forall_mem_nil _
  induction cs with
  | nil => exact .inl hnil
  | cons c cs ih =>
    by_cases hcolon : c = ':'
    · subst hcolon
      exact .inr (.inl ⟨[], cs, rfl, hnil⟩)
    · cases hblank : Text.isBlank c with
      | true => exact .inr (.inr ⟨[], c, cs, rfl, hnil, hblank⟩)
      | false =>
        have hcons : ∀ {name : List Char}, IsName name → IsName (c :: name) :=
          fun hname => List.forall_mem_cons.2 ⟨⟨hcolon, hblank⟩, hname⟩
        rcases ih with hname | ⟨name, rest, rfl, hname⟩ | ⟨name, b, rest, rfl, hname, hb⟩
        · exact .inl (hcons hname)
        · exact .inr (.inl ⟨c :: name, rest, rfl, hcons hname⟩)
        · exact .inr (.inr ⟨c :: name, b, rest, rfl, hcons hname, hb⟩)

/-- **Induction piece by piece**, as shortcodes are read. -/
@[elab_as_elim]
theorem piecewise_induction {P : List Char → Prop} (cs : List Char) (nil : P [])
    (cons : ∀ c rest, c ≠ ':' → P rest → P (c :: rest))
    (last : ∀ name, IsName name → P (':' :: name))
    (named : ∀ name rest, IsName name → P rest → P (':' :: (name ++ ':' :: rest)))
    (blank : ∀ name b rest, IsName name → Text.isBlank b = true → P rest →
      P (':' :: (name ++ b :: rest))) : P cs := by
  -- each piece has a character at least, so what is behind it is shorter
  induction hlength : cs.length using Nat.strong_induction_on generalizing cs with
  | _ n ih =>
    cases cs with
    | nil => exact nil
    | cons c cs =>
      have hlater : ∀ front rest, cs = front ++ rest → P rest := by
        intro front rest hcs
        refine ih rest.length ?_ rest rfl
        rw [← hlength, hcs, List.length_cons, List.length_append]
        omega
      by_cases hcolon : c = ':'
      · subst hcolon
        rcases exists_name cs with
          hname | ⟨name, rest, rfl, hname⟩ | ⟨name, b, rest, rfl, hname, hb⟩
        · exact last cs hname
        · exact named name rest hname (hlater (name ++ [':']) rest (by simp))
        · exact blank name b rest hname hb (hlater (name ++ [b]) rest (by simp))
      · exact cons c cs hcolon (hlater [] cs rfl)

/-! ## Whose turn a colon is -/

/-- The number of colons in the last word. -/
def pending (before : List Char) : Nat :=
  (before.reverse.takeWhile fun c => !Text.isBlank c).count ':'

/-- A name that is looked up: it stands between two colons, and before it in the same word there is
an even number of colons, so that each of these has its partner. -/
def Named (cs name : List Char) : Prop :=
  ∃ before after, cs = before ++ ':' :: (name ++ ':' :: after) ∧ IsName name ∧ Even (pending before)

/-- In front of blanks no colon counts. -/
theorem pending_cons_of_blank (hblank : ¬ ∀ d ∈ before, Text.isBlank d = false) (c : Char) :
    pending (c :: before) = pending before := by
  have htake : (before.reverse.takeWhile fun c => !Text.isBlank c).length ≠
      before.reverse.length := by
    intro hlength
    refine hblank fun d hd => ?_
    have hself := (List.takeWhile_prefix _).eq_of_length hlength
    have hd' := List.takeWhile_eq_self_iff.1 hself d (List.mem_reverse.2 hd)
    simpa using hd'
  rw [pending, pending, List.reverse_cons, List.takeWhile_append, if_neg htake]

/-- In front of a word a character is one more of it. -/
theorem pending_cons_of_word (hword : ∀ d ∈ before, Text.isBlank d = false) (c : Char) :
    pending (c :: before) = pending before + if c = ':' then 1 else 0 := by
  have htake : before.reverse.takeWhile (fun c => !Text.isBlank c) = before.reverse := by
    refine List.takeWhile_eq_self_iff.2 fun d hd => ?_
    rw [hword d (List.mem_reverse.1 hd)]
    rfl
  rw [pending, pending, List.reverse_cons, List.takeWhile_append, htake, if_pos rfl,
    List.count_append]
  split
  · rename_i hcolon
    subst hcolon
    rfl
  · rename_i hcolon
    have hnone : ([c].takeWhile fun c => !Text.isBlank c).count ':' = 0 := by
      refine List.count_eq_zero.2 fun hmem => ?_
      have hmem' := List.takeWhile_subset _ hmem
      exact hcolon (List.mem_singleton.1 hmem').symm
    rw [hnone]

theorem pending_cons_of_ne (hc : c ≠ ':') (before : List Char) :
    pending (c :: before) = pending before := by
  by_cases hword : ∀ d ∈ before, Text.isBlank d = false
  · rw [pending_cons_of_word hword, if_neg hc, Nat.add_zero]
  · exact pending_cons_of_blank hword c

theorem pending_name (hname : IsName name) (before : List Char) :
    pending (name ++ before) = pending before := by
  induction name with
  | nil => rfl
  | cons c name ih =>
    obtain ⟨⟨hcolon, -⟩, hname⟩ := List.forall_mem_cons.1 hname
    rw [List.cons_append, pending_cons_of_ne hcolon, ih hname]

/-- A colon that has no partner is pending. -/
theorem pending_open (hname : IsName name) : pending (':' :: name) = 1 := by
  have hword : ∀ d ∈ name, Text.isBlank d = false := fun d hd => (hname d hd).2
  have hnone : pending name = 0 := by
    have hself := pending_name hname []
    rw [List.append_nil] at hself
    exact hself
  rw [pending_cons_of_word hword, if_pos rfl, hnone]

/-- Two colons are partners. -/
theorem even_pending_named (hname : IsName name) (before : List Char) :
    Even (pending (':' :: (name ++ ':' :: before))) ↔ Even (pending before) := by
  have hwords : (∀ d ∈ name ++ ':' :: before, Text.isBlank d = false) ↔
      ∀ d ∈ before, Text.isBlank d = false := by
    constructor
    · intro h d hd
      exact h d (List.mem_append_right _ (List.mem_cons_of_mem _ hd))
    · intro h d hd
      rcases List.mem_append.1 hd with hd | hd
      · exact (hname d hd).2
      · rcases List.mem_cons.1 hd with rfl | hd
        · decide
        · exact h d hd
  by_cases hword : ∀ d ∈ before, Text.isBlank d = false
  · have htwo : pending (':' :: (name ++ ':' :: before)) = pending before + 2 := by
      rw [pending_cons_of_word (hwords.2 hword), pending_name hname, pending_cons_of_word hword,
        if_pos rfl]
    rw [htwo, Nat.even_add]
    exact iff_true_right even_two
  · rw [pending_cons_of_blank (mt hwords.1 hword), pending_name hname, pending_cons_of_blank hword]

/-- What stands before a blank does not count behind it. -/
theorem pending_blank (hname : IsName name) (hb : Text.isBlank b = true) (before : List Char) :
    pending (':' :: (name ++ b :: before)) = pending before := by
  have hbroken : ¬ ∀ d ∈ name ++ b :: before, Text.isBlank d = false := by
    intro h
    have hb' := h b (List.mem_append_right _ List.mem_cons_self)
    rw [hb] at hb'
    cases hb'
  have hcolon : b ≠ ':' := by
    rintro rfl
    exact absurd hb (by decide)
  rw [pending_cons_of_blank hbroken, pending_name hname, pending_cons_of_ne hcolon]

theorem named_here (hname : IsName name) (rest : List Char) :
    Named (':' :: (name ++ ':' :: rest)) name :=
  ⟨[], rest, rfl, hname, ⟨0, rfl⟩⟩

theorem Named.cons (hc : c ≠ ':') (h : Named rest name) : Named (c :: rest) name := by
  obtain ⟨before, after, rfl, hname, heven⟩ := h
  exact ⟨c :: before, after, rfl, hname, by rwa [pending_cons_of_ne hc]⟩

theorem Named.past (hother : IsName other) (h : Named rest name) :
    Named (':' :: (other ++ ':' :: rest)) name := by
  obtain ⟨before, after, rfl, hname, heven⟩ := h
  exact ⟨':' :: (other ++ ':' :: before), after, by simp, hname,
    (even_pending_named hother before).2 heven⟩

theorem Named.blank (hother : IsName other) (hb : Text.isBlank b = true) (h : Named rest name) :
    Named (':' :: (other ++ b :: rest)) name := by
  obtain ⟨before, after, rfl, hname, heven⟩ := h
  exact ⟨':' :: (other ++ b :: before), after, by simp, hname, by rwa [pending_blank hother hb]⟩

/-! ## Colons are used up -/

/-- A byte that is not that of a colon. -/
def isColonFree (s : String) : Bool := s.toByteArray.data.toList.all fun b => !(b.toNat == 58)

theorem colon_notMem_of_isColonFree {s : String} (h : isColonFree s = true) : ':' ∉ s.toList := by
  intro hmem
  have hbytes : s.toByteArray.data.toList = s.toList.flatMap String.utf8EncodeChar := by
    rw [← String.utf8Encode_toList, List.utf8Encode, List.toList_data_toByteArray]
  have hbyte : (58 : UInt8) ∈ s.toByteArray.data.toList := by
    rw [hbytes]
    exact List.mem_flatMap.2 ⟨':', hmem, by decide⟩
  have hfree := List.all_eq_true.1 h 58 hbyte
  exact absurd hfree (by decide)

/-- The tables, looked through byte by byte. -/
theorem isColonFree_shortcodeTables :
    (shortcodeTables.all fun table => table.all fun entry => isColonFree entry.2) = true := by
  decide +kernel

theorem colon_notMem_pictogram {name s : String} (h : pictogram? name = some s) :
    ':' ∉ s.toList := by
  obtain ⟨table, htable, hentry⟩ := List.exists_of_findSome?_eq_some h
  have hfree := List.all_eq_true.1 isColonFree_shortcodeTables table htable
  have hmem : (name, s) ∈ table := by
    obtain ⟨before, after, rfl, -⟩ := List.lookup_eq_some_iff.1 hentry
    exact List.mem_append_right _ List.mem_cons_self
  exact colon_notMem_of_isColonFree (List.all_eq_true.1 hfree _ hmem)

/-- What a name is replaced by has no colon in it. -/
theorem count_expandName? {shown : List Char} (h : expandName? name = some shown) :
    shown.count ':' = 0 := by
  have hshown : ∃ stem s variation, pictogram? stem = some s ∧ shown = s.toList ++ variation ∧
      (variation = ['\ufe0f'] ∨ variation = ['\ufe0e'] ∨ variation = []) := by
    unfold expandName? at h
    obtain ⟨s, hs, rfl⟩ := Option.map_eq_some_iff.1 h
    refine ⟨_, s, _, hs, rfl, ?_⟩
    split
    · exact .inl rfl
    · exact .inr (.inl rfl)
    · exact .inr (.inr rfl)
  obtain ⟨stem, s, variation, hs, rfl, hvariation⟩ := hshown
  have hnone : variation.count ':' = 0 := by
    rcases hvariation with rfl | rfl | rfl <;> decide
  rw [List.count_append, List.count_eq_zero.2 (colon_notMem_pictogram hs), hnone]

/-- A name has no colon in it. -/
theorem IsName.count_colon (hname : IsName name) : name.count ':' = 0 :=
  List.count_eq_zero.2 fun hmem => (hname ':' hmem).1 rfl

/-- Between its colons a name has two, and when it is replaced there are none. -/
theorem count_replaced (hname : IsName name) :
    ((expandName? name).getD (':' :: name ++ [':'])).count ':' =
      if (expandName? name).isSome then 0 else 2 := by
  cases hshown : expandName? name with
  | some shown => exact count_expandName? hshown
  | none => simp [hname.count_colon]

theorem count_named (hname : IsName name) (rest : List Char) :
    (':' :: (name ++ ':' :: rest)).count ':' = 2 + rest.count ':' := by
  rw [List.count_cons_self, List.count_append, List.count_cons_self, hname.count_colon]
  omega

/-- No colon is added. -/
theorem count_expandShortcodes_le (cs : List Char) :
    (expandShortcodes cs).count ':' ≤ cs.count ':' := by
  induction cs using piecewise_induction with
  | nil => exact Nat.le_refl _
  | cons c rest hc ih =>
    rw [expandShortcodes_cons hc, List.count_cons, List.count_cons]
    omega
  | last name hname =>
    rw [expandShortcodes_open hname]
  | named name rest hname ih =>
    rw [expandShortcodes_named hname, List.count_append, count_replaced hname, count_named hname]
    split <;> omega
  | blank name b rest hname hb ih =>
    rw [expandShortcodes_blank hname hb]
    simp only [List.count_cons, List.count_append]
    omega

/-- A name that is known takes its colons away. -/
theorem count_expandShortcodes_lt (hnamed : Named cs name)
    (hknown : (expandName? name).isSome = true) :
    (expandShortcodes cs).count ':' < cs.count ':' := by
  obtain ⟨before, after, rfl, hname, heven⟩ := hnamed
  -- along the pieces before the name, which leave an even number of colons pending
  induction before using piecewise_induction with
  | nil =>
    have hle := count_expandShortcodes_le after
    rw [List.nil_append, expandShortcodes_named hname, List.count_append, count_replaced hname,
      if_pos hknown, count_named hname]
    omega
  | cons c before hc ih =>
    have hlt := ih (by rwa [pending_cons_of_ne hc] at heven)
    rw [List.cons_append, expandShortcodes_cons hc, List.count_cons, List.count_cons]
    omega
  | last other hother =>
    rw [pending_open hother] at heven
    exact absurd heven (by decide)
  | named other before hother ih =>
    have hlt := ih ((even_pending_named hother before).1 heven)
    have hcs : ':' :: (other ++ ':' :: before) ++ ':' :: (name ++ ':' :: after) =
        ':' :: (other ++ ':' :: (before ++ ':' :: (name ++ ':' :: after))) := by simp
    rw [hcs, expandShortcodes_named hother, List.count_append, count_replaced hother,
      count_named hother]
    split <;> omega
  | blank other b before hother hb ih =>
    have hlt := ih (by rwa [pending_blank hother hb] at heven)
    have hcs : ':' :: (other ++ b :: before) ++ ':' :: (name ++ ':' :: after) =
        ':' :: (other ++ b :: (before ++ ':' :: (name ++ ':' :: after))) := by simp
    rw [hcs, expandShortcodes_blank hother hb]
    rw [List.count_cons_self, List.count_cons_self, List.count_append, List.count_append,
      List.count_cons, List.count_cons]
    omega

/-- A text without a known name comes out as it is. -/
theorem expandShortcodes_eq_self (hunknown : ∀ name, Named cs name → expandName? name = none) :
    expandShortcodes cs = cs := by
  induction cs using piecewise_induction with
  | nil => rfl
  | cons c rest hc ih =>
    rw [expandShortcodes_cons hc, ih fun name hnamed => hunknown name (hnamed.cons hc)]
  | last name hname => exact expandShortcodes_open hname
  | named name rest hname ih =>
    rw [expandShortcodes_named hname, hunknown name (named_here hname rest),
      ih fun other hnamed => hunknown other (hnamed.past hname), Option.getD_none]
    simp
  | blank name b rest hname hb ih =>
    rw [expandShortcodes_blank hname hb,
      ih fun other hnamed => hunknown other (hnamed.blank hname hb)]

/-- **Colons tell** whether a name has been replaced. -/
theorem count_expandShortcodes_eq_iff : (expandShortcodes cs).count ':' = cs.count ':' ↔
    ∀ name, Named cs name → expandName? name = none := by
  constructor
  · intro hcount name hnamed
    cases hknown : (expandName? name).isSome with
    | true =>
      have hlt := count_expandShortcodes_lt hnamed hknown
      omega
    | false => exact Option.isNone_iff_eq_none.1 (by simpa using hknown)
  · intro hunknown
    rw [expandShortcodes_eq_self hunknown]

end QuestFlow.Console

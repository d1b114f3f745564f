import Mathlib.Data.List.Induction
import Mathlib.Data.List.Nodup
import QuestFlow.Proofs.Files.Tree

/-!
# Well-formed file trees

A list of entries is a file tree when no place is in it twice, none of them is one of the places
where there are directories anyway, whatever is there is held by a directory, and every name could
be the name of a file.  Changes keep a tree well-formed, so every tree of a workspace is.

1. **Steps.**  Where a walk leads is told by its first step and the rest (`walk_cons_eq_ok_iff`).
2. **What is where** is told by `entry?`, and `places` lists it (`mem_places_iff`).
3. **Above everything there are directories** (`isDirectoryAt_of_append`), and so a walk by names
   leads down to each place, unless a directory keeps the program out (`walk_down`); and a path to
   what is below a directory leads there if it can be looked up (`resolve_join`).
4. **A tree that loses nothing** keeps what its paths lead to (`Stands.resolve`).
-/

namespace QuestFlow

/-- Whether a file or a directory can have the name. -/
structure IsFileName (name : String) : Prop where
  ne_up : name ≠ ".."
  short : name.utf8ByteSize ≤ nameLimit
  noZero : name.toList.contains '\x00' = false

instance (name : String) : Decidable (IsFileName name) :=
  decidable_of_iff (name ≠ ".." ∧ name.utf8ByteSize ≤ nameLimit ∧
      name.toList.contains '\x00' = false)
    ⟨fun h => ⟨h.1, h.2.1, h.2.2⟩, fun h => ⟨h.ne_up, h.short, h.noZero⟩⟩

namespace FileTree

/-- The entries are those of a file system. -/
structure WellFormed (t : FileTree) : Prop where
  distinct : (t.entries.map (·.1)).Nodup
  /-- there are directories above the place where the program runs without being entries -/
  off : ∀ place e, (place, e) ∈ t.entries → place.isPrefixOf t.here = false
  /-- a directory holds each entry -/
  held : ∀ place e, (place, e) ∈ t.entries → t.isDirectoryAt place.dropLast = true
  names : ∀ place e, (place, e) ∈ t.entries → ∀ name ∈ place, IsFileName name
  here : ∀ name ∈ t.here, IsFileName name

instance (t : FileTree) : Decidable t.WellFormed :=
  decidable_of_iff ((t.entries.map (·.1)).Nodup ∧
      (∀ x ∈ t.entries, x.1.isPrefixOf t.here = false ∧ t.isDirectoryAt x.1.dropLast = true ∧
        ∀ name ∈ x.1, IsFileName name) ∧
      ∀ name ∈ t.here, IsFileName name)
    ⟨fun h => ⟨h.1, fun place e hmem => (h.2.1 (place, e) hmem).1,
        fun place e hmem => (h.2.1 (place, e) hmem).2.1,
        fun place e hmem => (h.2.1 (place, e) hmem).2.2, h.2.2⟩,
      fun h => ⟨h.distinct, fun x hmem => ⟨h.off x.1 x.2 hmem, h.held x.1 x.2 hmem,
        h.names x.1 x.2 hmem⟩, h.here⟩⟩

variable {t t' : FileTree} {place other rest : Place} {e : FileEntry} {dir : Path}

/-! ## Steps -/

/-- A place from which a walk can go on: a directory that lets the program through. -/
structure IsPassable (t : FileTree) (place : Place) : Prop where
  directory : t.isDirectoryAt place = true
  searchable : place ∉ t.unsearchable

/-- **A step** from such a place. -/
theorem IsPassable.walk_cons (h : t.IsPassable place) (part : String) (parts : List String) :
    t.walk place (part :: parts) =
      if part = ".." then t.walk place.dropLast parts
      else if nameLimit < part.utf8ByteSize then .error .nameTooLong
      else match t.entry? (place ++ [part]) with
        | some _ => t.walk (place ++ [part]) parts
        | none => .error .missing := by
  have hopen : t.unsearchable.contains place = false := by simpa using h.searchable
  rw [walk, h.directory, hopen]
  rfl

/-- From a directory that keeps the program out there is none. -/
theorem walk_cons_of_closed (hdir : t.isDirectoryAt place = true) (h : ¬ t.IsPassable place)
    (part : String) (parts : List String) : t.walk place (part :: parts) = .error .denied := by
  have hclosed : t.unsearchable.contains place = true := by
    rw [List.contains_iff_mem]
    exact Decidable.not_not.1 fun hopen => h ⟨hdir, hopen⟩
  rw [walk, hdir, hclosed]
  rfl

/-- Nor is there one from what is no directory. -/
theorem walk_cons_of_not_passable (h : ¬ t.IsPassable place) (part : String) (parts : List String) :
    t.walk place (part :: parts) = .error .throughFile ∨
      t.walk place (part :: parts) = .error .denied := by
  by_cases hdir : t.isDirectoryAt place = true
  · exact .inr (walk_cons_of_closed hdir h part parts)
  · left
    rw [walk]
    simp [hdir]

/-- A step of a walk that leads somewhere goes up, or on to something that is there. -/
theorem walk_cons_eq_ok_iff {part : String} {parts : List String} :
    t.walk place (part :: parts) = .ok other ↔ t.IsPassable place ∧
      (part = ".." ∧ t.walk place.dropLast parts = .ok other ∨
        part ≠ ".." ∧ part.utf8ByteSize ≤ nameLimit ∧ (∃ e, t.entry? (place ++ [part]) = some e) ∧
          t.walk (place ++ [part]) parts = .ok other) := by
  by_cases hpass : t.IsPassable place
  · rw [hpass.walk_cons]
    by_cases hup : part = ".."
    · simp [hpass, hup]
    · by_cases hshort : part.utf8ByteSize ≤ nameLimit
      · cases t.entry? (place ++ [part]) <;> simp [hpass, hup, hshort, Nat.not_lt.2 hshort]
      · simp [hup, hshort, Nat.not_le.1 hshort]
  · rcases walk_cons_of_not_passable hpass part parts with hfault | hfault <;>
      simp [hfault, hpass]

/-- A step that finds nothing starts from such a place, with a name that something could have. -/
theorem walk_singleton_eq_missing_iff {name : String} :
    t.walk place [name] = .error .missing ↔ t.IsPassable place ∧ name ≠ ".." ∧
      name.utf8ByteSize ≤ nameLimit ∧ t.entry? (place ++ [name]) = none := by
  by_cases hpass : t.IsPassable place
  · rw [hpass.walk_cons]
    by_cases hup : name = ".."
    · simp [hup, walk]
    · by_cases hshort : name.utf8ByteSize ≤ nameLimit
      · cases t.entry? (place ++ [name]) <;>
          simp [hpass, hup, hshort, Nat.not_lt.2 hshort, walk]
      · simp [hup, hshort, Nat.not_le.1 hshort]
  · rcases walk_cons_of_not_passable hpass name [] with hfault | hfault <;>
      simp [hfault, hpass]

/-- A path leads where its components lead, if it can be looked up. -/
theorem resolve_eq_ok_iff : t.resolve dir = .ok place ↔ dir.hasZeroByte = false ∧
    dir.isTooLong = false ∧ t.walk (t.start dir) dir.parts = .ok place := by
  rw [resolve]
  cases dir.hasZeroByte <;> cases dir.isTooLong <;> simp

theorem resolve_eq_missing_iff : t.resolve dir = .error .missing ↔ dir.hasZeroByte = false ∧
    dir.isTooLong = false ∧ t.walk (t.start dir) dir.parts = .error .missing := by
  rw [resolve]
  cases dir.hasZeroByte <;> cases dir.isTooLong <;> simp

/-- A walk goes on from where its first part leads to. -/
theorem walk_append (t : FileTree) (place : Place) (xs ys : List String) :
    t.walk place (xs ++ ys) = (t.walk place xs).bind fun place => t.walk place ys := by
  induction xs generalizing place with
  | nil => rfl
  | cons x xs ih =>
    rw [List.cons_append, walk, walk]
    split
    · rfl
    · split
      · rfl
      · split
        · exact ih _
        · split
          · rfl
          · split
            · exact ih _
            · rfl

/-! ## What is where -/

theorem entry?_eq_of_off (hoff : place.isPrefixOf t.here = false) :
    t.entry? place = t.entries.lookup place := by
  rw [FileTree.entry?, hoff, if_neg Bool.false_ne_true]

theorem entry?_of_isPrefixOf (hon : place.isPrefixOf t.here = true) :
    t.entry? place = some .directory := by
  rw [FileTree.entry?, if_pos hon]

theorem mem_of_lookup {entries : List (Place × FileEntry)} (h : entries.lookup place = some e) :
    (place, e) ∈ entries := by
  obtain ⟨before, after, rfl, -⟩ := List.lookup_eq_some_iff.1 h
  exact List.mem_append_right _ List.mem_cons_self

/-- What is at a place off the way to where the program runs is an entry. -/
theorem mem_entries_of_off (hoff : place.isPrefixOf t.here = false)
    (h : t.entry? place = some e) : (place, e) ∈ t.entries := by
  rw [entry?_eq_of_off hoff] at h
  exact mem_of_lookup h

theorem lookup_of_mem {entries : List (Place × FileEntry)}
    (hdistinct : (entries.map (·.1)).Nodup) (h : (place, e) ∈ entries) :
    entries.lookup place = some e := by
  obtain ⟨before, after, rfl⟩ := List.append_of_mem h
  refine List.lookup_eq_some_iff.2 ⟨before, after, rfl, ?_⟩
  intro p hp
  rw [List.map_append, List.map_cons, List.nodup_append] at hdistinct
  have hne : p.1 ≠ place := hdistinct.2.2 p.1 (List.mem_map_of_mem hp) place List.mem_cons_self
  simpa using hne.symm

namespace WellFormed

variable (h : t.WellFormed)

include h

theorem entry?_of_mem (hmem : (place, e) ∈ t.entries) : t.entry? place = some e := by
  rw [entry?_eq_of_off (h.off place e hmem)]
  exact lookup_of_mem h.distinct hmem

/-- **All places** are listed with what is there. -/
theorem mem_places_iff : (place, e) ∈ t.places ↔ t.entry? place = some e := by
  rw [places, List.mem_append, List.mem_map]
  constructor
  · rintro (⟨n, -, heq⟩ | hmem)
    · obtain ⟨rfl, rfl⟩ := Prod.mk.inj heq
      exact entry?_of_isPrefixOf (List.isPrefixOf_iff_prefix.2 (List.take_prefix n t.here))
    · exact h.entry?_of_mem hmem
  · intro hentry
    cases hon : place.isPrefixOf t.here with
    | false => exact .inr (mem_entries_of_off hon hentry)
    | true =>
      left
      rw [entry?_of_isPrefixOf hon] at hentry
      obtain ⟨rest, hrest⟩ := List.isPrefixOf_iff_prefix.1 hon
      refine ⟨place.length, List.mem_range.2 ?_, ?_⟩
      · rw [← hrest, List.length_append]
        omega
      · rw [← hrest, List.take_left]
        exact Prod.ext rfl (Option.some.inj hentry)

/-- What is below a directory. -/
theorem mem_below_iff : (rest, e) ∈ t.below place ↔
    rest ≠ [] ∧ t.entry? (place ++ rest) = some e := by
  rw [below, List.mem_filterMap]
  constructor
  · rintro ⟨⟨q, f⟩, hmem, hsome⟩
    dsimp only at hsome
    split at hsome
    · rename_i hcond
      obtain ⟨rfl, rfl⟩ := Prod.mk.inj (Option.some.inj hsome)
      rw [Bool.and_eq_true, decide_eq_true_eq] at hcond
      obtain ⟨tail, rfl⟩ := List.isPrefixOf_iff_prefix.1 hcond.1
      rw [List.drop_left]
      refine ⟨?_, h.mem_places_iff.1 hmem⟩
      rintro rfl
      simp at hcond
    · cases hsome
  · rintro ⟨hne, hentry⟩
    refine ⟨(place ++ rest, e), h.mem_places_iff.2 hentry, ?_⟩
    have hlength : 0 < rest.length := List.length_pos_iff.2 hne
    have hcond : (place.isPrefixOf (place ++ rest) &&
        decide ((place ++ rest).length > place.length)) = true := by
      rw [Bool.and_eq_true, decide_eq_true_eq, List.length_append]
      exact ⟨List.isPrefixOf_iff_prefix.2 (List.prefix_append place rest), by omega⟩
    simp only [hcond, if_true, List.drop_left]

/-- Each place is listed once. -/
theorem nodup_places : (t.places.map (·.1)).Nodup := by
  rw [places, List.map_append, List.map_map, List.nodup_append]
  refine ⟨?_, h.distinct, ?_⟩
  · refine List.Nodup.map_on ?_ List.nodup_range
    intro n hn m hm heq
    have hlength := congrArg List.length heq
    simp only [Function.comp_apply, List.length_take] at hlength
    rw [List.mem_range] at hn hm
    omega
  · rintro _ hup _ hentry rfl
    obtain ⟨n, -, rfl⟩ := List.mem_map.1 hup
    obtain ⟨⟨q, e⟩, hmem, hq⟩ := List.mem_map.1 hentry
    have hoff := h.off q e hmem
    have hprefix : q.isPrefixOf t.here = true := by
      rw [show q = t.here.take n from hq]
      exact List.isPrefixOf_iff_prefix.2 (List.take_prefix n t.here)
    rw [hoff] at hprefix
    cases hprefix

/-- Each place below a directory is listed once. -/
theorem nodup_below (place : Place) : ((t.below place).map (·.1)).Nodup := by
  have hmap : (t.below place).map (·.1) = (t.places.map (·.1)).filterMap fun q =>
      if place.isPrefixOf q && q.length > place.length then some (q.drop place.length)
      else none := by
    rw [below, List.map_filterMap, List.filterMap_map]
    refine List.filterMap_congr fun x _ => ?_
    dsimp only [Function.comp_apply]
    split <;> rfl
  rw [hmap]
  refine h.nodup_places.filterMap ?_
  intro q q' rest hq hq'
  -- a place below the directory is that of the directory and the rest
  have hwhole : ∀ q : Place, (if place.isPrefixOf q && q.length > place.length then
      some (q.drop place.length) else none) = some rest → q = place ++ rest := by
    intro q hsome
    split at hsome
    · rename_i hcond
      rw [Bool.and_eq_true] at hcond
      obtain ⟨tail, rfl⟩ := List.isPrefixOf_iff_prefix.1 hcond.1
      rw [List.drop_left] at hsome
      rw [Option.some.inj hsome]
    · cases hsome
  rw [hwhole q hq, hwhole q' hq']

/-! ## Down to each place -/

/-- A directory holds whatever is there. -/
theorem isDirectoryAt_dropLast (hentry : t.entry? place = some e) :
    t.isDirectoryAt place.dropLast = true := by
  cases hon : place.isPrefixOf t.here with
  | false => exact h.held place e (mem_entries_of_off hon hentry)
  | true =>
    refine isDirectoryAt_of_isPrefixOf (List.isPrefixOf_iff_prefix.2 ?_)
    exact (List.dropLast_prefix place).trans (List.isPrefixOf_iff_prefix.1 hon)

/-- **Above everything there are directories.** -/
theorem isDirectoryAt_of_append (hentry : t.entry? (place ++ rest) = some e) (hne : rest ≠ []) :
    t.isDirectoryAt place = true := by
  induction rest using List.reverseRecOn generalizing e with
  | nil => exact absurd rfl hne
  | append_singleton rest name ih =>
    have hholder := h.isDirectoryAt_dropLast hentry
    rw [← List.append_assoc, List.dropLast_concat] at hholder
    by_cases hrest : rest = []
    · rwa [hrest, List.append_nil] at hholder
    · exact ih (beq_iff_eq.1 hholder) hrest

/-- The names on the way are names of files and directories. -/
theorem isFileName_of_mem (hentry : t.entry? place = some e) {name : String}
    (hname : name ∈ place) : IsFileName name := by
  cases hon : place.isPrefixOf t.here with
  | false => exact h.names place e (mem_entries_of_off hon hentry) name hname
  | true => exact h.here name ((List.isPrefixOf_iff_prefix.1 hon).subset hname)

/-- **Names lead down** to whatever is there, unless a directory on the way keeps the program
out. -/
theorem walk_down (hentry : t.entry? (place ++ rest) = some e) :
    t.walk place rest = .ok (place ++ rest) ∨ t.walk place rest = .error .denied := by
  induction rest generalizing place with
  | nil => exact .inl (by rw [walk, List.append_nil])
  | cons name rest ih =>
    have hdir := h.isDirectoryAt_of_append hentry (List.cons_ne_nil name rest)
    have hname := h.isFileName_of_mem hentry (List.mem_append_right _ List.mem_cons_self)
    have hsplit : place ++ name :: rest = place ++ [name] ++ rest := by simp
    rw [hsplit] at hentry ⊢
    -- the first name leads to a directory, or to what is looked for
    have hnext : ∃ f, t.entry? (place ++ [name]) = some f := by
      by_cases hrest : rest = []
      · rw [hrest, List.append_nil] at hentry
        exact ⟨e, hentry⟩
      · exact ⟨.directory, beq_iff_eq.1 (h.isDirectoryAt_of_append hentry hrest)⟩
    obtain ⟨f, hf⟩ := hnext
    by_cases hpass : t.IsPassable place
    · rw [hpass.walk_cons, if_neg hname.ne_up, if_neg (Nat.not_lt.2 hname.short), hf]
      exact ih hentry
    · exact .inr (walk_cons_of_closed hdir hpass name rest)

end WellFormed

/-! ## Trees that lose nothing -/

/-- Another tree with something wherever the first one has something, and directories where that has
directories. -/
structure Stands (t t' : FileTree) : Prop where
  standpoint : t'.toStandpoint = t.toStandpoint
  directory : ∀ place, t.isDirectoryAt place = true → t'.isDirectoryAt place = true
  entry : ∀ place e, t.entry? place = some e → ∃ e', t'.entry? place = some e'

/-- A tree that has the same and more. -/
theorem stands_of_grows (hstandpoint : t'.toStandpoint = t.toStandpoint)
    (hgrows : ∀ place e, t.entry? place = some e → t'.entry? place = some e) : Stands t t' where
  standpoint := hstandpoint
  directory := fun place hdir => beq_iff_eq.2 (hgrows place _ (beq_iff_eq.1 hdir))
  entry := fun place e hentry => ⟨e, hgrows place e hentry⟩

/-- Where a walk can go on, it still can. -/
theorem Stands.isPassable (hstands : Stands t t') (h : t.IsPassable place) :
    t'.IsPassable place where
  directory := hstands.directory place h.directory
  searchable := by
    rw [hstands.standpoint]
    exact h.searchable

/-- A walk that leads somewhere still leads there. -/
theorem Stands.walk (hstands : Stands t t') {parts : List String}
    (hwalk : t.walk place parts = .ok other) : t'.walk place parts = .ok other := by
  induction parts generalizing place with
  | nil => exact hwalk
  | cons part parts ih =>
    obtain ⟨hpass, hrest⟩ := walk_cons_eq_ok_iff.1 hwalk
    refine walk_cons_eq_ok_iff.2 ⟨hstands.isPassable hpass, ?_⟩
    rcases hrest with ⟨hup, hrest⟩ | ⟨hup, hshort, ⟨e, he⟩, hrest⟩
    · exact .inl ⟨hup, ih hrest⟩
    · exact .inr ⟨hup, hshort, hstands.entry _ e he, ih hrest⟩

/-- **A tree that loses nothing** keeps what its paths lead to. -/
theorem Stands.resolve (hstands : Stands t t') (hresolve : t.resolve dir = .ok place) :
    t'.resolve dir = .ok place := by
  obtain ⟨hzero, hshort, hwalk⟩ := resolve_eq_ok_iff.1 hresolve
  have hstart : t'.start dir = t.start dir := by
    rw [start, start, hstands.standpoint]
  exact resolve_eq_ok_iff.2 ⟨hzero, hshort, hstart ▸ hstands.walk hwalk⟩

/-- **A path below a directory** leads to what is there, if it can be looked up. -/
theorem WellFormed.resolve_join (h : t.WellFormed) (hdir : t.resolve dir = .ok place)
    (hentry : t.entry? (place ++ rest) = some e) {found : Option FileEntry}
    (hfound : t.find? (dir.join ⟨.here, rest⟩) = .ok found) :
    t.resolve (dir.join ⟨.here, rest⟩) = .ok (place ++ rest) := by
  have hjoin : dir.join ⟨.here, rest⟩ = ⟨dir.anchor, dir.parts ++ rest⟩ := rfl
  obtain ⟨hzero, -, hwalk⟩ := resolve_eq_ok_iff.1 hdir
  have hnames : rest.any (fun part => part.toList.contains '\x00') = false := by
    rw [List.any_eq_false]
    intro name hname
    rw [(h.isFileName_of_mem hentry (List.mem_append_right _ hname)).noZero]
    exact Bool.false_ne_true
  have hclean : (dir.join ⟨.here, rest⟩).hasZeroByte = false := by
    rw [hjoin, Path.hasZeroByte, List.any_append, hnames, Bool.or_false]
    exact hzero
  have hon : t.walk (t.start dir) (dir.parts ++ rest) = t.walk place rest := by
    rw [walk_append, hwalk]
    rfl
  -- being too long or kept out are faults that are told when the path is looked up
  have hresolve : t.resolve (dir.join ⟨.here, rest⟩) = if (dir.join ⟨.here, rest⟩).isTooLong
      then .error .nameTooLong else t.walk place rest := by
    rw [resolve, hclean, if_neg Bool.false_ne_true, hjoin, ← hon]
    rfl
  rw [find?, hresolve] at hfound
  rw [hresolve]
  split
  · rename_i hlong
    rw [if_pos hlong] at hfound
    cases hfound
  · rename_i hshort
    rw [if_neg hshort] at hfound
    rcases h.walk_down hentry with hdown | hdenied
    · exact hdown
    · rw [hdenied] at hfound
      cases hfound

end FileTree
end QuestFlow

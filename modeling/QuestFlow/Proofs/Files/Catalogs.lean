import Mathlib.Data.String.Basic
import Mathlib.Tactic.Choose
import QuestFlow.Proofs.Files.Checking
import QuestFlow.Proofs.Files.Directory
import QuestFlow.Proofs.Graph.Gathering
import QuestFlow.Service

/-!
# All catalogs or none

A catalog is put together from five files.  Each of them is there or not, and what it holds is of
use or not; a single one that is of no use keeps all of them from being loaded.

1. **One file** — `Usable` says what a file of use holds, `ListsId` which IDs it lists, and `Spoilt`
   why a file is of no use.  Whatever a file holds is the one or the other, unless the reader breaks
   down over it (`usable_or_spoilt`).
2. **What loading gives** — a path in the data directory leads to what stands there, if it can be
   looked up (`find?_catalogPath`), so a file of use gives the IDs that it lists, and a file of no
   use the reason (`idsAt_of_ready`, `idsAt_of_spoilt`).
3. **One file after the other** — loading gives what all the files give, or the first error and
   nothing else (`exists_loadCatalog_of_ready`, `value_loadCatalog_of_error`).  The service lists
   the one in rising order, and refuses with the other.
4. **Breaking off** — the path of a file in the data directory cannot always be looked up when that
   of the directory can, and then it cannot be found out whether the file is there; and the reader
   may break down over a file.  `catalogsHandled_of_directory`: everything depends on what the files
   hold, as long as no file of that sort comes before the first one of no use.
-/

namespace QuestFlow

/-- **The IDs of a kind** are listed in strictly rising order. -/
theorem Catalog.pairwise_listing (c : Catalog) (kind : EntityKind) :
    (c.listing kind).Pairwise (· < ·) := by
  have hrises : (c.listing kind).Pairwise fun a b => decide (a ≤ b) = true := by
    refine List.pairwise_mergeSort ?_ ?_ _
    · intro a b d hab hbd
      rw [decide_eq_true_eq] at hab hbd ⊢
      exact le_trans hab hbd
    · intro a b
      rw [Bool.or_eq_true, decide_eq_true_eq, decide_eq_true_eq]
      exact le_total a b
  have hdistinct : (c.listing kind).Nodup :=
    (List.mergeSort_perm _ _).nodup_iff.2 (nodup_eraseDups _)
  refine (hrises.and hdistinct).imp ?_
  rintro a b ⟨hle, hne⟩
  exact lt_of_le_of_ne (of_decide_eq_true hle) hne

/-! ## One file -/

namespace CatalogFile

variable {held : Option (Except ReadFault Value)} {key id : String} {cause : SourceCause} {p : Path}

/-- Whether a value is a mapping. -/
def isMapping : Value → Bool
  | .mapping _ => true
  | _ => false

/-- What a catalog file holds is of use: there is no file, or it is empty or a list of mappings. -/
def Usable (held : Option (Except ReadFault Value)) : Prop :=
  held = none ∨ held = some (.ok .null) ∨
    ∃ values, held = some (.ok (.list values)) ∧ ∀ v ∈ values, isMapping v = true

/-- The ID of an entry, if it has one: a text that is not empty. -/
def Identifies (key : String) (fields : Entries) (id : String) : Prop :=
  Value.lookup key fields = some (.text id) ∧ id ≠ ""

/-- An ID that a catalog file lists under a key. -/
def ListsId (held : Option (Except ReadFault Value)) (key id : String) : Prop :=
  ∃ values fields, held = some (.ok (.list values)) ∧ .mapping fields ∈ values ∧
    Identifies key fields id

/-- Why a catalog file at a path is of no use. -/
inductive Spoilt (p : Path) : Option (Except ReadFault Value) → SourceCause → Prop
  /-- it cannot be read, by a fault that is expected -/
  | unreadable {fault : ReadFault} (h : fault.breakdown? p = none) :
    Spoilt p (some (.error fault)) (.unreadable fault)
  | notList {v : Value} (hnull : v ≠ .null) (hlist : ∀ values, v ≠ .list values) :
    Spoilt p (some (.ok v)) .notList
  /-- the first entry that is no mapping -/
  | entry {before after : List Value} {v : Value} (hbefore : ∀ u ∈ before, isMapping u = true)
    (hv : isMapping v = false) :
    Spoilt p (some (.ok (.list (before ++ v :: after)))) (.entryNotMapping before.length)

theorem identifies_iff {fields : Entries} : Identifies key fields id ↔
    (Value.lookup key fields).bind Value.filledText? = some id := by
  rw [Identifies]
  cases Value.lookup key fields with
  | none => simp
  | some v =>
    cases v with
    | text s =>
      rw [Option.bind_some, Value.filledText?, Option.some.injEq, Value.text.injEq]
      by_cases hempty : s = ""
      · subst hempty
        simp
      · have hfilled : ¬ s.isEmpty = true := by rwa [String.isEmpty_iff]
        rw [if_neg hfilled, Option.some.injEq]
        constructor
        · exact fun h => h.1
        · rintro rfl
          exact ⟨rfl, hempty⟩
    | _ => simp [Value.filledText?]

/-- Some entry has an ID if the first one has, or some other. -/
theorem exists_identifies_cons_iff {fields : Entries} {values : List Value} :
    (∃ fields', .mapping fields' ∈ Value.mapping fields :: values ∧ Identifies key fields' id) ↔
      Identifies key fields id ∨
        ∃ fields', .mapping fields' ∈ values ∧ Identifies key fields' id := by
  constructor
  · rintro ⟨fields', hmem, hid⟩
    rcases List.mem_cons.1 hmem with heq | hmem
    · obtain rfl := Value.mapping.inj heq
      exact .inl hid
    · exact .inr ⟨fields', hmem, hid⟩
  · rintro (hid | ⟨fields', hmem, hid⟩)
    · exact ⟨fields, List.mem_cons_self, hid⟩
    · exact ⟨fields', List.mem_cons_of_mem _ hmem, hid⟩

/-- **Entries that are mappings** give the IDs of those that have one. -/
theorem value_catalogEntries_of_mappings (kind : EntityKind) (key : String) (index : Nat)
    {values : List Value} (hvalues : ∀ v ∈ values, isMapping v = true) :
    ∃ ids, (catalogEntries kind key index values).value = .ok ids ∧
      ∀ id, id ∈ ids ↔ ∃ fields, .mapping fields ∈ values ∧ Identifies key fields id := by
  -- the index is told in the log only
  induction values generalizing index with
  | nil => exact ⟨[], rfl, by simp⟩
  | cons v values ih =>
    obtain ⟨hv, hvalues⟩ := List.forall_mem_cons.1 hvalues
    obtain ⟨ids, hrest, hids⟩ := ih (index + 1) hvalues
    cases v with
    | mapping fields =>
      rw [catalogEntries]
      cases hfilled : (Value.lookup key fields).bind Value.filledText? with
      | some first =>
        refine ⟨first :: ids, ?_, fun id => ?_⟩
        · dsimp only
          rw [Logged.value_andThen, Logged.value_quiet, hrest]
          rfl
        · rw [exists_identifies_cons_iff, ← hids id, identifies_iff, hfilled, Option.some.injEq,
            List.mem_cons, eq_comm]
      | none =>
        refine ⟨ids, ?_, fun id => ?_⟩
        · dsimp only
          rw [Logged.value_andThen, hrest]
        · rw [exists_identifies_cons_iff, ← hids id, identifies_iff, hfilled]
          simp
    | _ => cases hv

/-- **The first entry that is none** is told by its index. -/
theorem value_catalogEntries_of_not_mapping (kind : EntityKind) (key : String) (index : Nat)
    {before after : List Value} {v : Value} (hbefore : ∀ u ∈ before, isMapping u = true)
    (hv : isMapping v = false) :
    (catalogEntries kind key index (before ++ v :: after)).value =
      .error (index + before.length) := by
  induction before generalizing index with
  | nil =>
    cases v with
    | mapping fields => cases hv
    | _ => rfl
  | cons u before ih =>
    obtain ⟨hu, hbefore⟩ := List.forall_mem_cons.1 hbefore
    have hrest := ih (index + 1) hbefore
    have hindex : index + 1 + before.length = index + (u :: before).length := by
      rw [List.length_cons]
      omega
    rw [hindex] at hrest
    cases u with
    | mapping fields =>
      rw [List.cons_append, catalogEntries]
      split
      · rw [Logged.value_andThen, Logged.value_quiet, hrest]
        rfl
      · rw [Logged.value_andThen, hrest]
    | _ => cases hu

/-- A file is of use or not, and then there is a reason, unless the reader breaks down over it. -/
theorem usable_or_spoilt (p : Path) (held : Option (Except ReadFault Value)) :
    Usable held ∨ (∃ cause, Spoilt p held cause) ∨
      ∃ fault b, held = some (.error fault) ∧ fault.breakdown? p = some b := by
  rcases held with _ | (fault | v)
  · exact .inl (.inl rfl)
  · cases hbreakdown : fault.breakdown? p with
    | none => exact .inr (.inl ⟨_, .unreadable hbreakdown⟩)
    | some b => exact .inr (.inr ⟨fault, b, rfl, hbreakdown⟩)
  · by_cases hnull : v = .null
    · exact .inl (.inr (.inl (by rw [hnull])))
    · by_cases hlist : ∃ values, v = .list values
      · obtain ⟨values, rfl⟩ := hlist
        rcases forall_or_first (isMapping · = true) values with
          hvalues | ⟨before, v, after, rfl, hbefore, hv⟩
        · exact .inl (.inr (.inr ⟨values, rfl, hvalues⟩))
        · exact .inr (.inl ⟨_, .entry hbefore (Bool.not_eq_true _ ▸ hv)⟩)
      · exact .inr (.inl ⟨_, .notList hnull fun values heq => hlist ⟨values, heq⟩⟩)

/-- What is of use is not of no use. -/
theorem Spoilt.not_usable (h : Spoilt p held cause) : ¬ Usable held := by
  rintro (hnone | hnull | ⟨values, hlist, hvalues⟩)
  · rw [hnone] at h
    cases h
  · rw [hnull] at h
    cases h with
    | notList hv _ => exact hv rfl
  · rw [hlist] at h
    cases h with
    | notList _ hv => exact hv values rfl
    | entry _ hv => exact absurd (hvalues _ (by simp)) (Bool.eq_false_iff.1 hv)

end CatalogFile

/-! ## What loading gives -/

namespace FileTree

open CatalogFile

variable {t : FileTree} {dir : Path} {place : Place} {kind : EntityKind} {cause : SourceCause}
  {e : Failure} {b : Breakdown} {found : Option FileEntry}

/-- What stands at the place of the catalog file of a kind. -/
def catalogEntry? (t : FileTree) (place : Place) (kind : EntityKind) : Option FileEntry :=
  t.entry? (place ++ [kind.fileName])

/-- What reading the catalog file of a kind gives, if there is one. -/
def catalogHeld? (t : FileTree) (place : Place) (kind : EntityKind) :
    Option (Except ReadFault Value) :=
  (t.catalogEntry? place kind).map (t.readAt (place ++ [kind.fileName]))

/-- The path of the catalog file of a kind. -/
def catalogPath (dir : Path) (kind : EntityKind) : Path := dir.child kind.fileName

/-- What loading the catalog file of a kind gives. -/
def idsAt (t : FileTree) (dir : Path) (kind : EntityKind) : Except Failure (List String) :=
  (t.loadIds kind (catalogPath dir kind) kind.idKey).value

/-- The path of a catalog file leads to its place in the data directory, unless it is too long, or
the directory keeps the program out. -/
theorem resolve_catalogPath (hdir : t.directory (.catalog none) dir = .ok place)
    (kind : EntityKind) : t.resolve (catalogPath dir kind) =
      if (catalogPath dir kind).isTooLong then .error .nameTooLong
      else if t.unsearchable.contains place then .error .denied
      else match t.catalogEntry? place kind with
        | some _ => .ok (place ++ [kind.fileName])
        | none => .error .missing := by
  obtain ⟨hresolve, hplace⟩ := directory_eq_ok_iff.1 hdir
  have hzero : (dir.child kind.fileName).hasZeroByte = false := by
    have hname : kind.fileName.toList.contains '\x00' = false := by cases kind <;> decide
    have hparts : dir.hasZeroByte = false := (resolve_eq_ok_iff.1 hresolve).1
    rw [Path.hasZeroByte] at hparts ⊢
    rw [Path.child, List.any_append, hparts, List.any_cons, hname]
    rfl
  have hup : kind.fileName ≠ ".." := by cases kind <;> decide
  have hshort : ¬ nameLimit < kind.fileName.utf8ByteSize := by cases kind <;> decide
  have hchild := resolve_child hresolve hplace kind.fileName
  rw [hzero, if_neg Bool.false_ne_true, if_neg hup, if_neg hshort] at hchild
  exact hchild

/-- **A catalog file can be looked up** just if its path is short enough and the directory lets the
program through, and then what stands at its place is found. -/
theorem find?_catalogPath (hdir : t.directory (.catalog none) dir = .ok place) :
    t.find? (catalogPath dir kind) = .ok found ↔ (catalogPath dir kind).isTooLong = false ∧
      place ∉ t.unsearchable ∧ t.catalogEntry? place kind = found := by
  have hresolve := resolve_catalogPath hdir kind
  rw [find?, hresolve]
  cases (catalogPath dir kind).isTooLong with
  | true => simp [PathFault.isAbsence]
  | false =>
    by_cases hopen : place ∈ t.unsearchable
    · simp [hopen, PathFault.isAbsence]
    · cases hentry : t.catalogEntry? place kind with
      | none => simp [hopen, PathFault.isAbsence]
      | some e =>
        have hplace : t.entry? (place ++ [kind.fileName]) = some e := hentry
        simp [hopen, hplace]

/-- What is read there is what is found. -/
theorem read_catalogPath (hdir : t.directory (.catalog none) dir = .ok place) {entry : FileEntry}
    (hfound : t.find? (catalogPath dir kind) = .ok (some entry)) :
    t.read (catalogPath dir kind) = t.readAt (place ++ [kind.fileName]) entry := by
  obtain ⟨hshort, hopen, hentry⟩ := (find?_catalogPath hdir).1 hfound
  have hplace : t.entry? (place ++ [kind.fileName]) = some entry := hentry
  have hresolve : t.resolve (catalogPath dir kind) = .ok (place ++ [kind.fileName]) := by
    rw [resolve_catalogPath hdir, hshort, hentry]
    simp [hopen]
  rw [read, hresolve]
  simp only [hplace]

/-- What loading a file that can be looked up gives, by what it holds. -/
theorem idsAt_of_found (hdir : t.directory (.catalog none) dir = .ok place)
    (hfound : t.find? (catalogPath dir kind) = .ok found) :
    t.idsAt dir kind = match t.catalogHeld? place kind with
      | none => .ok []
      | some (.error fault) => match fault.breakdown? (catalogPath dir kind) with
        | some b => .error (.breakdown b)
        | none =>
          .error (.source ⟨.catalog (some kind), catalogPath dir kind, .unreadable fault⟩)
      | some (.ok .null) => .ok []
      | some (.ok (.list values)) => match (catalogEntries kind kind.idKey 0 values).value with
        | .ok ids => .ok ids.eraseDups
        | .error index => .error (.source
            ⟨.catalog (some kind), catalogPath dir kind, .entryNotMapping index⟩)
      | some (.ok _) =>
        .error (.source ⟨.catalog (some kind), catalogPath dir kind, .notList⟩) := by
  obtain ⟨-, -, hentry⟩ := (find?_catalogPath hdir).1 hfound
  rw [idsAt, loadIds, hfound, catalogHeld?, hentry]
  cases found with
  | none => rfl
  | some entry =>
    rw [read_catalogPath hdir hfound]
    dsimp only [Option.map_some]
    cases t.readAt (place ++ [kind.fileName]) entry with
    | error fault =>
      dsimp only
      cases fault.breakdown? (catalogPath dir kind) <;> rfl
    | ok v =>
      cases v with
      | list values =>
        dsimp only
        rw [Logged.value_andThen]
        cases (catalogEntries kind kind.idKey 0 values).value <;> rfl
      | _ => rfl

/-- What a catalog file holds is of use, and its path can be looked up. -/
structure Ready (t : FileTree) (dir : Path) (place : Place) (kind : EntityKind) : Prop where
  usable : Usable (t.catalogHeld? place kind)
  found : ∃ found, t.find? (catalogPath dir kind) = .ok found

/-- **A file of use** gives the IDs that it lists. -/
theorem idsAt_of_ready (hdir : t.directory (.catalog none) dir = .ok place)
    (hready : Ready t dir place kind) : ∃ ids, t.idsAt dir kind = .ok ids ∧
      ∀ id, id ∈ ids ↔ ListsId (t.catalogHeld? place kind) kind.idKey id := by
  obtain ⟨husable, found, hfound⟩ := hready
  rw [idsAt_of_found hdir hfound]
  rcases husable with hnone | hnull | ⟨values, hlist, hvalues⟩
  · exact ⟨[], by rw [hnone], fun id => by simp [hnone, ListsId]⟩
  · exact ⟨[], by rw [hnull], fun id => by simp [hnull, ListsId]⟩
  · obtain ⟨ids, hids, hmem⟩ := value_catalogEntries_of_mappings kind kind.idKey 0 hvalues
    refine ⟨ids.eraseDups, ?_, fun id => ?_⟩
    · rw [hlist]
      simp only [hids]
    · rw [List.mem_eraseDups, hmem, hlist]
      constructor
      · rintro ⟨fields, hfields, hid⟩
        exact ⟨values, fields, rfl, hfields, hid⟩
      · rintro ⟨values', fields, hlist', hfields, hid⟩
        obtain rfl := Value.list.inj (Except.ok.inj (Option.some.inj hlist'))
        exact ⟨fields, hfields, hid⟩

/-- **A file of no use** gives the reason. -/
theorem idsAt_of_spoilt (hdir : t.directory (.catalog none) dir = .ok place)
    (hfound : t.find? (catalogPath dir kind) = .ok found)
    (hspoilt : Spoilt (catalogPath dir kind) (t.catalogHeld? place kind) cause) :
    t.idsAt dir kind =
      .error (.source ⟨.catalog (some kind), catalogPath dir kind, cause⟩) := by
  rw [idsAt_of_found hdir hfound]
  generalize t.catalogHeld? place kind = held at hspoilt
  cases hspoilt with
  | unreadable h => simp only [h]
  | @notList v hnull hlist =>
    cases v with
    | null => exact absurd rfl hnull
    | list values => exact absurd rfl (hlist values)
    | _ => rfl
  | entry hbefore hv =>
    simp only [value_catalogEntries_of_not_mapping kind kind.idKey 0 hbefore hv, Nat.zero_add]

/-- Loading breaks off at a catalog file: it cannot be looked up, or the reader breaks down over
it. -/
def BreaksOff (t : FileTree) (dir : Path) (place : Place) (kind : EntityKind) (b : Breakdown) :
    Prop :=
  (∃ fault, t.find? (catalogPath dir kind) = .error fault ∧
    b = .path (catalogPath dir kind) fault) ∨
    (∃ found, t.find? (catalogPath dir kind) = .ok found) ∧
      ∃ fault, t.catalogHeld? place kind = some (.error fault) ∧
        fault.breakdown? (catalogPath dir kind) = some b

theorem idsAt_of_breaksOff (hdir : t.directory (.catalog none) dir = .ok place)
    (hbreaks : BreaksOff t dir place kind b) : t.idsAt dir kind = .error (.breakdown b) := by
  rcases hbreaks with ⟨fault, hlost, rfl⟩ | ⟨⟨found, hfound⟩, fault, hheld, hbreakdown⟩
  · rw [idsAt, loadIds, hlost]
    rfl
  · rw [idsAt_of_found hdir hfound, hheld]
    simp only [hbreakdown]

/-- A file is ready, or loading breaks off at it, or it is of no use. -/
theorem ready_or (t : FileTree) (dir : Path) (place : Place) (kind : EntityKind) :
    Ready t dir place kind ∨ (∃ b, BreaksOff t dir place kind b) ∨
      (∃ found, t.find? (catalogPath dir kind) = .ok found) ∧
        ∃ cause, Spoilt (catalogPath dir kind) (t.catalogHeld? place kind) cause := by
  cases hfind : t.find? (catalogPath dir kind) with
  | error fault => exact .inr (.inl ⟨_, .inl ⟨fault, hfind, rfl⟩⟩)
  | ok found =>
    rcases usable_or_spoilt (catalogPath dir kind) (t.catalogHeld? place kind) with
      husable | hspoilt | ⟨fault, b, hheld, hbreakdown⟩
    · exact .inl ⟨husable, found, hfind⟩
    · exact .inr (.inr ⟨⟨found, rfl⟩, hspoilt⟩)
    · exact .inr (.inl ⟨b, .inr ⟨⟨found, hfind⟩, fault, hheld, hbreakdown⟩⟩)

/-! ## One file after the other -/

/-- A file is loaded, and then those behind it. -/
theorem value_loadKinds_cons (t : FileTree) (dir : Path) (kind : EntityKind)
    (kinds : List EntityKind) : (t.loadKinds dir (kind :: kinds)).value =
      (t.idsAt dir kind).bind fun ids =>
        (t.loadKinds dir kinds).value.map fun rest => (kind, ids) :: rest := by
  rw [loadKinds, Logged.value_andThenOk]
  show (t.idsAt dir kind).bind _ = _
  cases t.idsAt dir kind with
  | error e => rfl
  | ok ids =>
    show ((t.loadKinds dir kinds).andThenOk _).value = _
    rw [Logged.value_andThenOk]
    cases (t.loadKinds dir kinds).value <;> rfl

/-- The IDs that each file gives, one after the other. -/
theorem value_loadKinds_of_ok {kinds : List EntityKind} {ids : EntityKind → List String}
    (hids : ∀ kind ∈ kinds, t.idsAt dir kind = .ok (ids kind)) :
    (t.loadKinds dir kinds).value = .ok (kinds.map fun kind => (kind, ids kind)) := by
  induction kinds with
  | nil => rfl
  | cons kind kinds ih =>
    obtain ⟨hfirst, hkinds⟩ := List.forall_mem_cons.1 hids
    rw [value_loadKinds_cons, hfirst, ih hkinds]
    rfl

/-- **The first error** is the only one. -/
theorem value_loadKinds_of_error {before after : List EntityKind}
    (hbefore : ∀ k ∈ before, ∃ ids, t.idsAt dir k = .ok ids)
    (herror : t.idsAt dir kind = .error e) :
    (t.loadKinds dir (before ++ kind :: after)).value = .error e := by
  induction before with
  | nil =>
    rw [List.nil_append, value_loadKinds_cons, herror]
    rfl
  | cons k before ih =>
    obtain ⟨⟨ids, hfirst⟩, hbefore⟩ := List.forall_mem_cons.1 hbefore
    rw [List.cons_append, value_loadKinds_cons, hfirst, ih hbefore]
    rfl

/-- A catalog is made of the IDs of all kinds. -/
theorem value_loadCatalog (hdir : t.directory (.catalog none) dir = .ok place) :
    (t.loadCatalog dir).value = (t.loadKinds dir EntityKind.all).value.map fun sets =>
      .ofKinds fun kind => (sets.lookup kind).getD [] := by
  rw [loadCatalog, hdir]
  show ((t.loadKinds dir EntityKind.all).andThenOk _).value = _
  rw [Logged.value_andThenOk]
  cases (t.loadKinds dir EntityKind.all).value <;> rfl

/-- **Files of use**, all of them within reach, are loaded. -/
theorem exists_loadCatalog_of_ready (hdir : t.directory (.catalog none) dir = .ok place)
    (hready : ∀ kind, Ready t dir place kind) : ∃ c, (t.loadCatalog dir).value = .ok c ∧
      ∀ kind id, id ∈ c.ids kind ↔ ListsId (t.catalogHeld? place kind) kind.idKey id := by
  choose ids hids hmem using fun kind => idsAt_of_ready hdir (hready kind)
  -- each kind finds its own IDs again among those of all kinds
  have hlookup : ∀ kind, ((EntityKind.all.map fun k => (k, ids k)).lookup kind).getD [] =
      ids kind := by
    intro kind
    cases kind <;> rfl
  refine ⟨.ofKinds ids, ?_, fun kind id => ?_⟩
  · rw [value_loadCatalog hdir, value_loadKinds_of_ok fun kind _ => hids kind]
    exact congrArg (fun f => Except.ok (Catalog.ofKinds f)) (funext hlookup)
  · rw [Catalog.ids_ofKinds]
    exact hmem kind id

/-- **An error behind files of use** is what loading gives. -/
theorem value_loadCatalog_of_error (hdir : t.directory (.catalog none) dir = .ok place)
    {before after : List EntityKind} (hall : EntityKind.all = before ++ kind :: after)
    (hbefore : ∀ k ∈ before, Ready t dir place k) (herror : t.idsAt dir kind = .error e) :
    (t.loadCatalog dir).value = .error e := by
  have hids : ∀ k ∈ before, ∃ ids, t.idsAt dir k = .ok ids := by
    intro k hk
    obtain ⟨ids, hids, -⟩ := idsAt_of_ready hdir (hbefore k hk)
    exact ⟨ids, hids⟩
  rw [value_loadCatalog hdir, hall, value_loadKinds_of_error hids herror]
  rfl

/-- What is answered to a request for the entities of a kind. -/
theorem value_listEntities (t : FileTree) (s : Settings) (kind : EntityKind) :
    (Service.respond t s (.listEntities kind)).value =
      Service.answer (fun c => .body (.ofTexts (c.listing kind)))
        (t.loadCatalog s.dataDir).value := by
  have hcatalog : (Service.catalog t s).value = (t.loadCatalog s.dataDir).value := by
    rw [Service.catalog]
    cases hloaded : (t.loadCatalog s.dataDir).value with
    | ok c => simp only [hloaded]
    | error e => cases e <;> simp only [hloaded, Logged.also]
  rw [← hcatalog]
  rfl

/-! ## Breaking off -/

/-- What is promised about the catalogs of a data directory. -/
structure CatalogsPromised (t : FileTree) (dir : Path) (place : Place) : Prop where
  /-- they are loaded just if every file is of use -/
  loads_iff : (∃ c, (t.loadCatalog dir).value = .ok c) ↔
    ∀ kind, Usable (t.catalogHeld? place kind)
  /-- each kind has the IDs that its own file lists under its own key -/
  ids : ∀ c, (t.loadCatalog dir).value = .ok c → ∀ kind id,
    id ∈ c.ids kind ↔ ListsId (t.catalogHeld? place kind) kind.idKey id
  /-- otherwise the first file of no use is told, and why it is of no use -/
  fails : ∀ e, (t.loadCatalog dir).value = .error e → ∃ before kind after cause,
    EntityKind.all = before ++ kind :: after ∧
    (∀ k ∈ before, Usable (t.catalogHeld? place k)) ∧
    Spoilt (catalogPath dir kind) (t.catalogHeld? place kind) cause ∧
    e = .source ⟨.catalog (some kind), catalogPath dir kind, cause⟩
  /-- the service lists the IDs of a kind in strictly rising order -/
  lists : ∀ c, (t.loadCatalog dir).value = .ok c → ∀ s kind, s.dataDir = dir →
    ∃ ids, (Service.respond t s (.listEntities kind)).value = .body (.ofTexts ids) ∧
      ids.Pairwise (· < ·) ∧
      ∀ id, id ∈ ids ↔ ListsId (t.catalogHeld? place kind) kind.idKey id
  /-- or refuses to, and says why -/
  refuses : ∀ e, (t.loadCatalog dir).value = .error (.source e) → ∀ s kind, s.dataDir = dir →
    (Service.respond t s (.listEntities kind)).value = .refusal 500 e.message

/-- A file at which loading breaks off, before any file of no use. -/
def CutOff (t : FileTree) (dir : Path) (place : Place) (kind : EntityKind) (b : Breakdown) : Prop :=
  ∃ before after, EntityKind.all = before ++ kind :: after ∧
    (∀ k ∈ before, Ready t dir place k) ∧ BreaksOff t dir place kind b

theorem promised_of_ready (hdir : t.directory (.catalog none) dir = .ok place)
    (hready : ∀ kind, Ready t dir place kind) : CatalogsPromised t dir place := by
  obtain ⟨c, hloaded, hids⟩ := exists_loadCatalog_of_ready hdir hready
  have hunfailed : ∀ e, (t.loadCatalog dir).value ≠ .error e := by
    intro e he
    rw [hloaded] at he
    cases he
  exact {
    loads_iff := by
      constructor
      · intro _ kind
        exact (hready kind).usable
      · intro _
        exact ⟨c, hloaded⟩
    ids := by
      intro c' hc
      obtain rfl := Except.ok.inj (hloaded.symm.trans hc)
      exact hids
    fails := fun e he => absurd he (hunfailed e)
    lists := by
      rintro c' hc s kind rfl
      obtain rfl := Except.ok.inj (hloaded.symm.trans hc)
      refine ⟨c.listing kind, ?_, c.pairwise_listing kind, fun id => ?_⟩
      · rw [value_listEntities, hloaded]
        rfl
      · rw [Catalog.listing, Text.mem_sortedDistinct]
        exact hids kind id
    refuses := fun e he => absurd he (hunfailed _) }

/-- **A file of no use** that can be looked up, and before it only files of use, is told. -/
theorem promised_of_spoilt (hdir : t.directory (.catalog none) dir = .ok place)
    {before after : List EntityKind} (hall : EntityKind.all = before ++ kind :: after)
    (hbefore : ∀ k ∈ before, Ready t dir place k)
    (hfound : t.find? (catalogPath dir kind) = .ok found)
    (hspoilt : Spoilt (catalogPath dir kind) (t.catalogHeld? place kind) cause) :
    CatalogsPromised t dir place := by
  have hfailed : (t.loadCatalog dir).value =
      .error (.source ⟨.catalog (some kind), catalogPath dir kind, cause⟩) :=
    value_loadCatalog_of_error hdir hall hbefore (idsAt_of_spoilt hdir hfound hspoilt)
  have hunloaded : ∀ c, (t.loadCatalog dir).value ≠ .ok c := by
    intro c hc
    rw [hfailed] at hc
    cases hc
  exact {
    loads_iff := by
      constructor
      · rintro ⟨c, hc⟩
        exact absurd hc (hunloaded c)
      · intro husable
        exact absurd (husable kind) hspoilt.not_usable
    ids := fun c hc => absurd hc (hunloaded c)
    fails := by
      intro e he
      obtain rfl := Except.error.inj (hfailed.symm.trans he)
      exact ⟨before, kind, after, cause, hall, fun k hk => (hbefore k hk).usable, hspoilt, rfl⟩
    lists := fun c hc => absurd hc (hunloaded c)
    refuses := by
      rintro e he s k rfl
      obtain rfl := Failure.source.inj (Except.error.inj (hfailed.symm.trans he))
      rw [value_listEntities, hfailed]
      rfl }

/-- **A file at which loading breaks off**, and before it only files of use, ends everything. -/
theorem value_loadCatalog_of_cutOff (hdir : t.directory (.catalog none) dir = .ok place)
    (hcut : CutOff t dir place kind b) : (t.loadCatalog dir).value = .error (.breakdown b) := by
  obtain ⟨before, after, hall, hbefore, hbreaks⟩ := hcut
  exact value_loadCatalog_of_error hdir hall hbefore (idsAt_of_breaksOff hdir hbreaks)

theorem not_promised_of_cutOff (hdir : t.directory (.catalog none) dir = .ok place)
    (hcut : CutOff t dir place kind b) : ¬ CatalogsPromised t dir place := by
  intro hpromised
  obtain ⟨_, k, _, cause, -, -, -, herror⟩ :=
    hpromised.fails _ (value_loadCatalog_of_cutOff hdir hcut)
  cases herror

/-- When what is promised about the catalogs of a data directory is kept, and what happens
otherwise. -/
structure CatalogsHandled (t : FileTree) (dir : Path) (place : Place) : Prop where
  promised_iff : CatalogsPromised t dir place ↔ ∀ kind b, ¬ CutOff t dir place kind b
  /-- a file at which loading breaks off ends it, and leaves the service without an answer -/
  cutOff : ∀ kind b, CutOff t dir place kind b →
    (t.loadCatalog dir).value = .error (.breakdown b) ∧
    ∀ s k, s.dataDir = dir → (Service.respond t s (.listEntities k)).value = .breakdown b
  /-- a file can be looked up just if its path is short enough and the directory lets the program
  through -/
  found_iff : ∀ kind, (∃ found, t.find? (catalogPath dir kind) = .ok found) ↔
    (catalogPath dir kind).isTooLong = false ∧ place ∉ t.unsearchable

/-- **All catalogs or none**: everything depends on what the files hold, unless one at which loading
breaks off comes before the first that is of no use. -/
theorem catalogsHandled_of_directory (hdir : t.directory (.catalog none) dir = .ok place) :
    CatalogsHandled t dir place where
  promised_iff := by
    constructor
    · intro hpromised kind b hcut
      exact not_promised_of_cutOff hdir hcut hpromised
    · intro huncut
      rcases forall_or_first (Ready t dir place) EntityKind.all with
        hready | ⟨before, kind, after, hall, hbefore, hunready⟩
      · exact promised_of_ready hdir fun kind => hready kind kind.mem_all
      · rcases ready_or t dir place kind with
          hready | ⟨b, hbreaks⟩ | ⟨⟨found, hfound⟩, cause, hspoilt⟩
        · exact absurd hready hunready
        · exact absurd ⟨before, after, hall, hbefore, hbreaks⟩ (huncut kind b)
        · exact promised_of_spoilt hdir hall hbefore hfound hspoilt
  cutOff := by
    intro kind b hcut
    have hvalue := value_loadCatalog_of_cutOff hdir hcut
    refine ⟨hvalue, ?_⟩
    rintro s k rfl
    rw [value_listEntities, hvalue]
    rfl
  found_iff := by
    intro kind
    simp only [find?_catalogPath hdir]
    simp

/-- A data directory with one catalog file, of which some entries have no ID. -/
def larder : FileTree :=
  { here := []
    entries := [(["data"], .directory), (["data", "items.yaml"], .file (.ofDocument (.list
      [.ofFields [("ItemID", .text "B")], .ofFields [("ItemID", .text "")],
        .ofFields [("ItemID", .int 1)], .ofFields [("NPCID", .text "C")],
        .ofFields [("ItemID", .text "A")], .ofFields [("ItemID", .text "B")]])))] }

theorem catalogsHandled_larder :
    larder.directory (.catalog none) ⟨.here, ["data"]⟩ = .ok ["data"] ∧
    CatalogsPromised larder ⟨.here, ["data"]⟩ ["data"] ∧
    (larder.loadCatalog ⟨.here, ["data"]⟩).value = .ok { items := ["B", "A"] } := by
  have hdir : larder.directory (.catalog none) ⟨.here, ["data"]⟩ = .ok ["data"] := by
    decide +kernel
  have hloaded : (larder.loadCatalog ⟨.here, ["data"]⟩).value = .ok { items := ["B", "A"] } := by
    decide +kernel
  have hhandled := catalogsHandled_of_directory hdir
  refine ⟨hdir, hhandled.promised_iff.2 fun kind b hcut => ?_, hloaded⟩
  rw [(hhandled.cutOff kind b hcut).1] at hloaded
  cases hloaded

/-- The first catalog file is out of reach in a directory that is named by many steps up. -/
theorem cutOff_stairs :
    ({ here := [] } : FileTree).directory (.catalog none) (stairs 1365) = .ok [] ∧
    CutOff { here := [] } (stairs 1365) [] .character
      (.path (catalogPath (stairs 1365) .character) .nameTooLong) := by
  have hdir : ({ here := [] } : FileTree).directory (.catalog none) (stairs 1365) = .ok [] :=
    directory_eq_ok_iff.2 ⟨resolve_stairs (by decide) (by decide) rfl List.not_mem_nil, rfl⟩
  have hlong : (catalogPath (stairs 1365) .character).isTooLong = true := by
    have hsize : EntityKind.character.fileName.utf8ByteSize = 9 := rfl
    rw [catalogPath]
    exact (isTooLong_stairs_join 1365 _).2 (by rw [hsize]; decide)
  have hlost : ({ here := [] } : FileTree).find? (catalogPath (stairs 1365) .character) =
      .error .nameTooLong := by
    refine find?_of_tooLong ?_ hlong
    exact hasZeroByte_stairs_join 1365 (by decide)
  exact ⟨hdir, [], _, rfl, List.forall_mem_nil _, .inl ⟨_, hlost, rfl⟩⟩

/-- **The data directory gives up** over files that are not there, if it is named by many steps
up. -/
theorem not_promised_of_stairs : ¬ ∀ (t : FileTree) (dir : Path) (place : Place),
    t.directory (.catalog none) dir = .ok place → CatalogsPromised t dir place := by
  intro hall
  obtain ⟨hdir, hcut⟩ := cutOff_stairs
  exact not_promised_of_cutOff hdir hcut (hall _ _ _ hdir)

end FileTree
end QuestFlow

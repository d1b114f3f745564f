import Mathlib.Data.List.Basic
import QuestFlow.Document.Field

/-!
# Where the faults of a reading lie

The faults of a record are those of its parts, one part after the other, each seen from one level
further out.  So the path of a fault tells which part is to blame.

1. **Combined readings** — the faults of `map`, `seq`, `under` and `allFrom` in terms of the faults
   of what they combine.
2. **Blame** — `Checked.Elsewhere s` says that no fault lies in the field `s`.  It goes through all
   that a record is read with: other fields (`Elsewhere.optional`), left-over entries
   (`Elsewhere.leftOver`), and what combines them.
3. **One place** — `Fault.isAt` picks the faults at a place.  In a list of readings these are the
   faults of the member there (`filter_isAt_allFrom`).
-/

namespace QuestFlow

variable {α β : Type}

/-! ## Combined readings -/

namespace Checked

@[simp] theorem faults_ok (a : α) : (Checked.ok a).faults = [] := rfl

@[simp] theorem faults_faulty (fs : List Fault) : (Checked.faulty fs : Checked α).faults = fs := rfl

@[simp] theorem faults_map (f : α → β) (a : Checked α) : (a.map f).faults = a.faults := by
  cases a <;> rfl

theorem faults_seq (f : Checked (α → β)) (a : Checked α) :
    (f.seq a).faults = f.faults ++ a.faults := by
  cases f <;> cases a <;> simp [seq]

theorem faults_under (step : Step) (a : Checked α) :
    (a.under step).faults = a.faults.map (.under step) := by
  cases a <;> rfl

theorem faults_allFrom (read : Value → Checked α) (start : Nat) (items : List Value) :
    (allFrom read start items).faults = (items.zipIdx start).flatMap fun (v, i) =>
      (read v).faults.map (.under (.index i)) := by
  induction items generalizing start with
  | nil => rfl
  | cons v items ih =>
    rw [allFrom, faults_seq, faults_map, faults_under, ih, List.zipIdx_cons, List.flatMap_cons]

/-- What has a fault is refused with its faults. -/
theorem eq_faulty_of_mem {a : Checked α} {f : Fault} (hf : f ∈ a.faults) :
    a = .faulty a.faults := by
  cases a with
  | ok a => cases hf
  | faulty fs => rfl

end Checked

/-! ## Blame -/

/-- The names of the one field are none of the other. -/
def Spelled.Apart (s g : Spelled) : Prop := ∀ name ∈ [g.label, g.plain], name ∉ [s.label, s.plain]

instance (s g : Spelled) : Decidable (s.Apart g) :=
  inferInstanceAs (Decidable (∀ name ∈ _, _))

/-- A field is found under one of its names. -/
theorem Spelled.name_mem_of_find {g : Spelled} {es : Entries} {name : String} {v : Value}
    (hfind : g.find es = some (name, v)) : name ∈ [g.label, g.plain] := by
  rw [find] at hfind
  split at hfind
  · cases hfind
    exact List.mem_cons_self
  · obtain ⟨_, -, heq⟩ := Option.map_eq_some_iff.1 hfind
    cases heq
    exact List.mem_cons_of_mem _ List.mem_cons_self

namespace Checked

/-- Each fault lies further in, and under neither name of the field. -/
def Elsewhere (s : Spelled) (a : Checked α) : Prop :=
  ∀ f ∈ a.faults, ∃ step rest, f.path = step :: rest ∧
    step ≠ .field s.label ∧ step ≠ .field s.plain

namespace Elsewhere

variable {s g : Spelled} {es : Entries} {read : Value → Checked α}

theorem ok {a : α} : (Checked.ok a).Elsewhere s := by
  intro f hf
  cases hf

theorem map {f : α → β} {a : Checked α} (h : a.Elsewhere s) : (a.map f).Elsewhere s := by
  intro fault hfault
  rw [faults_map] at hfault
  exact h fault hfault

theorem seq {f : Checked (α → β)} {a : Checked α} (hf : f.Elsewhere s) (ha : a.Elsewhere s) :
    (f.seq a).Elsewhere s := by
  intro fault hfault
  rw [faults_seq] at hfault
  rcases List.mem_append.1 hfault with hfault | hfault
  · exact hf fault hfault
  · exact ha fault hfault

theorem field {name : String} (hname : name ∉ [s.label, s.plain]) (a : Checked α) :
    (a.under (.field name)).Elsewhere s := by
  intro fault hfault
  rw [faults_under] at hfault
  obtain ⟨inner, -, rfl⟩ := List.mem_map.1 hfault
  refine ⟨.field name, inner.path, rfl, ?_, ?_⟩
  · rintro ⟨⟩
    exact hname List.mem_cons_self
  · rintro ⟨⟩
    exact hname (List.mem_cons_of_mem _ List.mem_cons_self)

theorem required (hapart : s.Apart g) : (g.required read es).Elsewhere s := by
  rw [Spelled.required]
  split
  next name v hfind => exact field (hapart name (Spelled.name_mem_of_find hfind)) _
  next => exact field (hapart g.label List.mem_cons_self) (.fail .missing : Checked α)

theorem optional {fallback : α} (hapart : s.Apart g) :
    (g.optional read fallback es).Elsewhere s := by
  rw [Spelled.optional]
  split
  next name v hfind => exact field (hapart name (Spelled.name_mem_of_find hfind)) _
  next => exact ok

/-- What is wrong with a left-over entry is its key. -/
theorem leftOver {fields : List Spelled} : (QuestFlow.leftOver fields es).Elsewhere s := by
  suffices hall : ∀ all rest : Entries, (leftOverOf fields all rest).Elsewhere s from hall es es
  intro all rest
  induction rest with
  | nil => exact ok
  | cons e rest ih =>
    obtain ⟨k, v⟩ := e
    have hkey : ∀ k : Key, (Checked.faulty [⟨[.key k], .keyNotText⟩] :
        Checked (Extra → Extra)).Elsewhere s := by
      intro k f hf
      obtain rfl := List.mem_singleton.1 hf
      exact ⟨.key k, [], rfl, nofun, nofun⟩
    cases k with
    | text name =>
      rw [leftOverOf]
      split
      · exact ih
      · exact ih.map
    | _ => exact seq (hkey _) ih

end Elsewhere
end Checked

/-! ## One place -/

/-- The fault lies at the place, or further in. -/
def Fault.isAt (place : List Step) (f : Fault) : Bool := place.isPrefixOf f.path

@[simp] theorem Fault.isAt_nil (f : Fault) : f.isAt [] = true := rfl

/-- The faults seen from further out lie at the places that are seen from there. -/
theorem filter_isAt_under (step : Step) (place : List Step) (fs : List Fault) :
    (fs.map (Fault.under step)).filter (·.isAt (step :: place)) =
      (fs.filter (·.isAt place)).map (Fault.under step) := by
  have hsame : (Fault.isAt (step :: place)) ∘ Fault.under step = Fault.isAt place := by
    funext f
    simp [Fault.isAt, Fault.under]
  rw [List.filter_map, hsame]

theorem filter_isAt_under_of_ne {step step' : Step} (hne : step' ≠ step) (place : List Step)
    (fs : List Fault) : (fs.map (Fault.under step)).filter (·.isAt (step' :: place)) = [] := by
  refine List.filter_eq_nil_iff.2 fun f hf => ?_
  obtain ⟨inner, -, rfl⟩ := List.mem_map.1 hf
  simp [Fault.isAt, Fault.under, hne]

/-- A reading that blames other fields only has no fault at a place in this one. -/
theorem Checked.Elsewhere.filter_isAt {s : Spelled} {a : Checked α} (h : a.Elsewhere s)
    {name : String} (hname : name ∈ [s.label, s.plain]) (place : List Step) :
    a.faults.filter (·.isAt (.field name :: place)) = [] := by
  refine List.filter_eq_nil_iff.2 fun f hf => ?_
  obtain ⟨step, rest, hpath, hlabel, hplain⟩ := h f hf
  have hne : Step.field name ≠ step := by
    rintro rfl
    rcases List.mem_pair.1 hname with rfl | rfl
    · exact hlabel rfl
    · exact hplain rfl
  simp [Fault.isAt, hpath, hne]

/-- Of two readings combined, one that blames other fields only can be left out of account. -/
theorem Checked.Elsewhere.filter_isAt_seq {s : Spelled} {f : Checked (α → β)}
    (h : f.Elsewhere s) {name : String} (hname : name ∈ [s.label, s.plain]) (place : List Step)
    (a : Checked α) : (f.seq a).faults.filter (·.isAt (.field name :: place)) =
      a.faults.filter (·.isAt (.field name :: place)) := by
  rw [faults_seq, List.filter_append, h.filter_isAt hname, List.nil_append]

theorem Checked.Elsewhere.filter_seq_isAt {s : Spelled} {a : Checked α} (h : a.Elsewhere s)
    {name : String} (hname : name ∈ [s.label, s.plain]) (place : List Step)
    (f : Checked (α → β)) : (f.seq a).faults.filter (·.isAt (.field name :: place)) =
      f.faults.filter (·.isAt (.field name :: place)) := by
  rw [faults_seq, List.filter_append, h.filter_isAt hname, List.append_nil]

/-- The faults at a place of a list are those of the member there. -/
theorem filter_isAt_allFrom (read : Value → Checked α) (start : Nat) {i : Nat}
    {items : List Value} {v : Value} (hv : items[i]? = some v) (place : List Step) :
    (Checked.allFrom read start items).faults.filter (·.isAt (.index (start + i) :: place)) =
      ((read v).faults.filter (·.isAt place)).map (Fault.under (.index (start + i))) := by
  have hlater : ∀ {k : Nat} (items : List Value) {start : Nat}, k < start →
      (Checked.allFrom read start items).faults.filter (·.isAt (.index k :: place)) = [] := by
    intro k items start hlt
    rw [Checked.faults_allFrom, List.filter_flatMap, List.flatMap_eq_nil_iff]
    rintro ⟨w, j⟩ hmem
    have hle : start ≤ j := (List.mem_zipIdx hmem).1
    exact filter_isAt_under_of_ne (by simp; omega) _ _
  induction items generalizing start i with
  | nil => cases hv
  | cons w items ih =>
    rw [Checked.allFrom, Checked.faults_seq, Checked.faults_map, Checked.faults_under,
      List.filter_append]
    cases i with
    | zero =>
      cases hv
      rw [Nat.add_zero, filter_isAt_under, hlater items (Nat.lt_succ_self start), List.append_nil]
    | succ i =>
      have hindex : start + (i + 1) = start + 1 + i := by omega
      have hrest : items[i]? = some v := hv
      rw [hindex, filter_isAt_under_of_ne (by simp; omega), ih _ hrest, List.nil_append]

theorem filter_isAt_readList (read : Value → Checked α) {i : Nat} {items : List Value} {v : Value}
    (hv : items[i]? = some v) (place : List Step) :
    (Value.readList read (.list items)).faults.filter (·.isAt (.index i :: place)) =
      ((read v).faults.filter (·.isAt place)).map (Fault.under (.index i)) := by
  have hall := filter_isAt_allFrom read 0 hv place
  rwa [Nat.zero_add] at hall

end QuestFlow

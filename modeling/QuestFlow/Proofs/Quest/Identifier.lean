import QuestFlow.Proofs.Quest.Reading

/-!
# The two gates for quest IDs

An ID comes in by two gates.  A document is read only if its ID passes the first one, and the
service looks for a quest only if the ID that is asked for passes the second one.  Both gates ask
for the same form and the same length, and they should let the same IDs through.

1. **One form, two ends** — `HasForm` says that a text begins with an ID and what stands behind it.
   The first gate lets nothing stand there (`isWellFormed_iff`), the second one also a line end
   (`admits_iff`).
2. **The gates** — `exists_ofDocument_iff` and `objection?_eq_none_iff` say what passes, in these
   words alone.
3. **Where they differ** — `gatesCompared`: the gates agree on an ID exactly when no line end stands
   behind it.  One that does passes the second gate only (`lineEnd_passes_second_gate_only`).
-/

namespace QuestFlow

namespace QuestId

variable {cs rest : List Char} {id : String}

/-! ## One form, two ends -/

/-- The characters begin with an ID, and `rest` stands behind it. -/
def HasForm (cs rest : List Char) : Prop :=
  ∃ c body, cs = c :: body ++ rest ∧ isInitial c = true ∧ ∀ d ∈ body, isPart d = true

theorem isWellFormed_iff : isWellFormed cs = true ↔ HasForm cs [] := by
  cases cs with
  | nil => simp [isWellFormed, HasForm]
  | cons c cs => simp [isWellFormed, HasForm]

theorem admits_iff : admits cs = true ↔ HasForm cs [] ∨ HasForm cs ['\n'] := by
  have hend : (cs.getLast? == some '\n' && isWellFormed cs.dropLast) = true ↔
      HasForm cs ['\n'] := by
    rw [Bool.and_eq_true, beq_iff_eq, isWellFormed_iff]
    constructor
    · rintro ⟨hlast, c, body, hfront, hc, hbody⟩
      refine ⟨c, body, ?_, hc, hbody⟩
      rw [← List.dropLast_append_getLast? '\n' hlast, hfront, List.append_nil]
    · rintro ⟨c, body, rfl, hc, hbody⟩
      refine ⟨List.getLast?_concat, c, body, ?_, hc, hbody⟩
      rw [List.dropLast_concat, List.append_nil]
  rw [admits, Bool.or_eq_true, hend, isWellFormed_iff]

/-- No line end stands in an ID. -/
theorem HasForm.lineEnd_notMem (h : HasForm cs []) : '\n' ∉ cs := by
  obtain ⟨c, body, rfl, hc, hbody⟩ := h
  rw [List.append_nil]
  intro hmem
  rcases List.mem_cons.1 hmem with rfl | hmem
  · exact absurd hc (by decide)
  · exact absurd (hbody '\n' hmem) (by decide)

/-! ## The gates -/

/-- The second gate: an ID that is asked for. -/
theorem objection?_eq_none_iff : objection? id = none ↔
    id.length ≤ maxLength ∧ (HasForm id.toList [] ∨ HasForm id.toList ['\n']) := by
  rw [← admits_iff, objection?]
  by_cases hempty : id.isEmpty
  · obtain rfl := String.isEmpty_iff.1 hempty
    simp [admits, isWellFormed]
  · rw [if_neg hempty]
    by_cases hlong : id.length > maxLength
    · simp [if_pos hlong, Nat.not_le_of_lt hlong]
    · rw [if_neg hlong]
      cases admits id.toList <;> simp [Nat.le_of_not_lt hlong]

end QuestId

namespace Quest

open QuestId

/-- What is read as an ID is a text, and it is not changed. -/
theorem readId_eq_ok_iff {v : Value} {id : String} : readId v = .ok id ↔
    v = .text id ∧ id.length ≤ maxLength ∧ HasForm id.toList [] := by
  rw [← isWellFormed_iff]
  constructor
  · intro hread
    cases v with
    | text s =>
      rw [readId] at hread
      split at hread
      · cases hread
      · rename_i hshort
        split at hread
        · rename_i hform
          obtain rfl := Checked.ok.inj hread
          exact ⟨rfl, Nat.le_of_not_lt hshort, hform⟩
        · cases hread
    | _ => cases hread
  · rintro ⟨rfl, hshort, hform⟩
    rw [readId, if_neg (Nat.not_lt_of_le hshort), if_pos hform]

/-- A document that gives an ID and nothing else. -/
def document (id : String) : Value := .ofFields [("QuestID", .text id)]

/-- The first gate: an ID that a document gives. -/
theorem exists_ofDocument_iff {id : String} {source : Option Path} :
    (∃ q, ofDocument (document id) source = .ok q) ↔
      id.length ≤ maxLength ∧ HasForm id.toList [] := by
  have hfind : questIdField.find [(.text "QuestID", .text id)] = some ("QuestID", .text id) := rfl
  constructor
  · rintro ⟨q, hq⟩
    obtain ⟨_, q₀, ⟨rfl⟩, hread, -⟩ := ofDocument_eq_ok_iff.1 hq
    obtain ⟨name, v, hname, hid⟩ := Spelled.required_eq_ok_iff.1 (readEntries_eq_ok_iff.1 hread).1
    cases hfind.symm.trans hname
    obtain ⟨⟨rfl⟩, hpasses⟩ := readId_eq_ok_iff.1 hid
    exact hpasses
  · intro hpasses
    have hid : questIdField.required readId [(.text "QuestID", .text id)] = .ok id :=
      Spelled.required_eq_ok_iff.2 ⟨_, _, hfind, readId_eq_ok_iff.2 ⟨rfl, hpasses⟩⟩
    -- nothing else is given, so every other field has its fallback
    have hread : readEntries [(.text "QuestID", .text id)] = .ok { id := id } :=
      readEntries_eq_ok_iff.2 ⟨hid, rfl, rfl, rfl, rfl, rfl, rfl, rfl, rfl⟩
    exact ⟨_, ofDocument_eq_ok_iff.2 ⟨_, _, rfl, hread, rfl⟩⟩

end Quest

namespace QuestId

/-! ## Where they differ -/

/-- A line end stands behind the ID, and with it the text is not too long. -/
structure EndsLine (id : String) : Prop where
  short : id.length ≤ maxLength
  form : HasForm id.toList ['\n']

/-- What passes the two gates. -/
structure GatesCompared (id : String) : Prop where
  document_iff : (∃ q, Quest.ofDocument (Quest.document id) none = .ok q) ↔
    id.length ≤ maxLength ∧ HasForm id.toList []
  service_iff : objection? id = none ↔
    id.length ≤ maxLength ∧ (HasForm id.toList [] ∨ HasForm id.toList ['\n'])
  /-- the gates agree on an ID just when no line end stands behind it -/
  agree_iff : (objection? id = none ↔ ∃ q, Quest.ofDocument (Quest.document id) none = .ok q) ↔
    ¬ EndsLine id

/-- **The gates agree** on every ID but those with a line end behind them. -/
theorem gatesCompared (id : String) : GatesCompared id where
  document_iff := Quest.exists_ofDocument_iff
  service_iff := objection?_eq_none_iff
  agree_iff := by
    rw [objection?_eq_none_iff, Quest.exists_ofDocument_iff]
    constructor
    · rintro hagree ⟨hshort, hform⟩
      have hplain : HasForm id.toList [] := (hagree.1 ⟨hshort, .inr hform⟩).2
      obtain ⟨c, body, htext, -, -⟩ := hform
      have hmem : '\n' ∈ id.toList := by
        rw [htext]
        exact List.mem_append_right _ (List.mem_singleton_self _)
      exact hplain.lineEnd_notMem hmem
    · intro hnone
      have hplain : ∀ _ : id.length ≤ maxLength, ¬ HasForm id.toList ['\n'] :=
        fun hshort hform => hnone ⟨hshort, hform⟩
      constructor
      · rintro ⟨hshort, hform | hform⟩
        · exact ⟨hshort, hform⟩
        · exact absurd hform (hplain hshort)
      · rintro ⟨hshort, hform⟩
        exact ⟨hshort, .inl hform⟩

/-- An ID with a line end behind it can be asked for, and no document can have it. -/
theorem lineEnd_passes_second_gate_only : objection? "Q1\n" = none ∧
    ¬ ∃ q, Quest.ofDocument (Quest.document "Q1\n") none = .ok q := by
  refine ⟨by decide, ?_⟩
  rw [Quest.exists_ofDocument_iff]
  rintro ⟨-, hform⟩
  exact hform.lineEnd_notMem (by decide)

end QuestId
end QuestFlow

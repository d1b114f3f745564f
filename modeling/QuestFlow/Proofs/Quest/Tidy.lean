import QuestFlow.Proofs.Document.Record
import QuestFlow.Proofs.Quest.Renaming

/-!
# Quests without left-over nulls

A left-over null stands in the document under a key that no field takes.  It is kept in the quest,
but it is not written.  `Quest.tidy` drops such nulls from all records of a quest.  The tidy quest
is written as the quest itself is (`Quest.write_tidy`), and the rules see no difference
(`renames_tidy`): it is what a quest can be compared with after it has been written and read.
-/

namespace QuestFlow

open Function

/-! ## Without left-over nulls -/

/-- The text without left-over nulls. -/
def Localized.tidy (t : Localized) : Localized := { t with extra := present t.extra }

/-- The message without left-over nulls. -/
def DialogMessage.tidy (m : DialogMessage) : DialogMessage :=
  { m with text := m.text.tidy, extra := present m.extra }

/-- The option without left-over nulls. -/
def DialogOption.tidy (o : DialogOption) : DialogOption :=
  { o with text := o.text.tidy, extra := present o.extra }

/-- The edges, without left-over nulls in stray options. -/
def FlatEdges.tidy (e : FlatEdges) : FlatEdges :=
  { e with strayOptions := e.strayOptions.map (List.map DialogOption.tidy) }

/-- The speech, without left-over nulls in its text. -/
def Speech.tidy (s : Speech) : Speech := { s with text := s.text.map Localized.tidy }

/-- The body, without left-over nulls in its parts. -/
def Body.tidy : Body → Body
  | .entryPoint e => .entryPoint e.tidy
  | .actions e list => .actions e.tidy list
  | .dialog e speech messages => .dialog e.tidy speech.tidy (messages.map DialogMessage.tidy)
  | .decision type speech options strayNext =>
    .decision type speech.tidy (options.map DialogOption.tidy) strayNext
  | .conditionBranch required ifTrue ifFalse strayNext =>
    .conditionBranch required ifTrue ifFalse strayNext
  | .questProgress e progressors => .questProgress e.tidy progressors
  | .unmodelled type next ifTrue ifFalse options =>
    .unmodelled type next ifTrue ifFalse (options.map DialogOption.tidy)

/-- The node without left-over nulls. -/
def Node.tidy (n : Node) : Node := { n with body := n.body.tidy, extra := present n.extra }

/-- The quest without left-over nulls. -/
def Quest.tidy (q : Quest) : Quest :=
  { q with
    displayName := q.displayName.tidy, nodes := q.nodes.map Node.tidy, extra := present q.extra }

/-! ### It is written as before -/

theorem writeRecord_present (ws : Fields) (extra : Extra) :
    writeRecord .dropped (ws ++ present extra) = writeRecord .dropped (ws ++ extra) := by
  rw [writeRecord_dropped, writeRecord_dropped, dumpOf, dumpOf, present_append, present_append,
    present_present]

theorem Localized.write_tidy (t : Localized) : t.tidy.write .dropped = t.write .dropped :=
  writeRecord_present _ _

theorem DialogMessage.write_tidy (m : DialogMessage) :
    m.tidy.write .dropped = m.write .dropped := by
  rw [write, write, entries, entries, ← writeRecord_present _ m.extra, ← m.text.write_tidy]
  rfl

theorem DialogOption.write_tidy (o : DialogOption) : o.tidy.write .dropped = o.write .dropped := by
  rw [write, write, entries, entries, ← writeRecord_present _ o.extra, ← o.text.write_tidy]
  rfl

theorem writeOptions_tidy (os : List DialogOption) :
    writeOptions .dropped (os.map DialogOption.tidy) = writeOptions .dropped os := by
  rw [writeOptions, writeOptions, List.map_map]
  exact congrArg Value.list (List.map_congr_left fun o _ => o.write_tidy)

theorem FlatEdges.entries_tidy (e : FlatEdges) : e.tidy.entries .dropped = e.entries .dropped := by
  obtain ⟨next, ifTrue, ifFalse, _ | options⟩ := e
  · rfl
  · simp [tidy, entries, writeNullable, writeOptions_tidy]

theorem Speech.entries_tidy (s : Speech) : s.tidy.entries .dropped = s.entries .dropped := by
  obtain ⟨partner, speaker, _ | text⟩ := s
  · rfl
  · simp [tidy, entries, writeNullable, Localized.write_tidy]

theorem Body.nodeType_tidy (b : Body) : b.tidy.nodeType = b.nodeType := by
  cases b <;> rfl

theorem Body.entries_tidy (b : Body) : b.tidy.entries .dropped = b.entries .dropped := by
  cases b <;>
    simp [tidy, entries, nodeType, variant, FlatEdges.entries_tidy, Speech.entries_tidy,
      writeOptions_tidy, DialogMessage.write_tidy, comp_def]

theorem Node.write_tidy (n : Node) : n.tidy.write .dropped = n.write .dropped := by
  rw [write, write, entries, entries, ← writeRecord_present _ n.extra, ← n.body.entries_tidy]
  rfl

theorem Quest.write_tidy (q : Quest) : q.tidy.write .dropped = q.write .dropped := by
  have hnodes : (q.nodes.map Node.tidy).map (·.write .dropped) =
      q.nodes.map (·.write .dropped) := by
    rw [List.map_map]
    exact List.map_congr_left fun n _ => n.write_tidy
  rw [write, write, entries, entries, ← writeRecord_present _ q.extra, ← q.displayName.write_tidy,
    ← hnodes]
  rfl

/-! ### The rules see no difference -/

theorem EdgeField.map_rename_id (xs : List EdgeField) : xs.map (EdgeField.rename id) = xs := by
  have hsame : EdgeField.rename id = id := by
    funext x
    rw [EdgeField.rename, List.map_id]
    rfl
  rw [hsame, List.map_id]

theorem optionFields_tidy (os : List DialogOption) :
    optionFields (os.map DialogOption.tidy) = optionFields os := by
  have hnext : ∀ o : DialogOption, o.tidy.next = o.next.map id := fun o => (List.map_id _).symm
  rw [optionFields_map hnext, EdgeField.map_rename_id]

theorem FlatEdges.strayFields_tidy (e : FlatEdges) : e.tidy.strayFields = e.strayFields := by
  have hnext : ∀ o : DialogOption, o.tidy.next = o.next.map id := fun o => (List.map_id _).symm
  have hsame : ∀ ts : Option (List Int), ts = ts.map (List.map id) := by
    intro ts
    cases ts <;> simp
  have hfields : e.tidy.strayFields = e.strayFields.map (EdgeField.rename id) :=
    strayFields_map hnext (hsame _) (hsame _) rfl
  rw [hfields, EdgeField.map_rename_id]

theorem Body.legalFields_tidy (b : Body) : b.tidy.legalFields = b.legalFields := by
  cases b with
  | decision => exact optionFields_tidy _
  | unmodelled => rw [tidy, legalFields, legalFields, optionFields_tidy]
  | _ => rfl

theorem Body.strayFields_tidy (b : Body) : b.tidy.strayFields = b.strayFields := by
  cases b with
  | decision | conditionBranch | unmodelled => rfl
  | _ => exact FlatEdges.strayFields_tidy _

theorem Body.options_tidy (b : Body) :
    b.tidy.options = b.options.map DialogOption.tidy ∧
      b.tidy.strayOptions = b.strayOptions.map DialogOption.tidy := by
  have hstray : ∀ e : FlatEdges, e.tidy.strayOptions.getD [] =
      (e.strayOptions.getD []).map DialogOption.tidy := by
    intro e
    rw [FlatEdges.tidy]
    cases e.strayOptions <;> rfl
  cases b with
  | decision | unmodelled | conditionBranch => exact ⟨rfl, rfl⟩
  | _ => exact ⟨rfl, hstray _⟩

theorem Node.allConditions_tidy (n : Node) : n.tidy.allConditions = n.allConditions :=
  Node.allConditions_eq_of_options n.body.options_tidy (fun _ => rfl) rfl

/-- **No rule reads what is dropped**: not even an ID is replaced. -/
theorem renames_tidy : Node.Renames id Node.tidy where
  id _ := rfl
  variant n := by obtain ⟨_, _, b, _⟩ := n; cases b <;> rfl
  nodeType n := n.body.nodeType_tidy
  legalFields n := by rw [EdgeField.map_rename_id]; exact n.body.legalFields_tidy
  strayFields n := by rw [EdgeField.map_rename_id]; exact n.body.strayFields_tidy
  conditions _ := rfl
  allConditions := Node.allConditions_tidy
  actions n := by obtain ⟨_, _, b, _⟩ := n; cases b <;> rfl
  voices n := by obtain ⟨_, _, b, _⟩ := n; cases b <;> rfl
  messageSpeakers n := by
    obtain ⟨_, _, b, _⟩ := n
    cases b with
    | dialog =>
      rw [Node.messageSpeakers, Node.messageSpeakers, Node.tidy, Body.tidy, Body.messages,
        Body.messages, List.map_map]
      rfl
    | _ => rfl

end QuestFlow

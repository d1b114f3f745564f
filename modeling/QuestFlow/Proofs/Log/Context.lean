import QuestFlow.Log.Event
import QuestFlow.Proofs.Document.Record

/-!
# Keeping a context around a piece of work

`Event.inContext` adds to an event what surrounds it.  In a running program the surroundings are
kept by somebody else: keys are bound before a piece of work and given back after it, and whatever
the work says in between gets the keys that are bound at that moment.

1. **What is relied on** is a `ContextKeeper`: binding binds the given keys and leaves the others
   alone, and giving back does the same for what those keys were bound to before.
2. **What a program can do** is a `Script`: say something, break off, or do a piece of work within
   more context, as deep as it likes.
3. **Nothing leaks**: after a script everything is bound as it was before, however the script ends
   (`ContextKeeper.lookup_play`).
4. **A list of jobs**, each within a context of its own, says what `Event.inContext` says it does,
   whatever is bound around the whole list (`said_jobs`).
-/

namespace QuestFlow

/-- Keeps a context: which keys are bound to what.  Binding and giving back concern the given keys
alone. -/
structure ContextKeeper where
  State : Type
  /-- what is bound -/
  bound : State → Fields
  /-- binds the fields -/
  enter : Fields → State → State
  /-- gives the keys of the fields back what they were bound to in the first state -/
  leave : Fields → State → State → State
  lookup_enter : ∀ fields s key, (bound (enter fields s)).lookup key =
    (fields.lookup key).or ((bound s).lookup key)
  lookup_leave : ∀ fields before now key, (bound (leave fields before now)).lookup key =
    if key ∈ fields.map (·.1) then (bound before).lookup key else (bound now).lookup key

/-- What a part of a program does as far as its events are concerned. -/
inductive Script where
  | done
  /-- breaks off; nothing that would come later is done -/
  | breakOff
  | say (e : Event) (rest : Script)
  /-- does something within more context, and goes on without it -/
  | within (fields : Fields) (work rest : Script)
  deriving Repr

/-- What playing a script leaves. -/
structure Played (State : Type) where
  said : List Event
  state : State
  brokeOff : Bool

namespace ContextKeeper

variable (k : ContextKeeper)

/-- Plays a script.  Work that breaks off takes the script with it, but not before its context is
given back. -/
def play : Script → k.State → Played k.State
  | .done, s => ⟨[], s, false⟩
  | .breakOff, s => ⟨[], s, true⟩
  | .say e rest, s =>
    let after := play rest s
    { after with said := e.inContext (k.bound s) :: after.said }
  | .within fields work rest, s =>
    let inner := play work (k.enter fields s)
    let s := k.leave fields s inner.state
    if inner.brokeOff then ⟨inner.said, s, true⟩
    else
      let after := play rest s
      { after with said := inner.said ++ after.said }

variable {k} {s : k.State} {fields : Fields}

/-- Leaving what was entered, after work that bound nothing for good. -/
theorem lookup_leave_of_same {inner : k.State} {key : String}
    (hinner : (k.bound inner).lookup key = (k.bound (k.enter fields s)).lookup key) :
    (k.bound (k.leave fields s inner)).lookup key = (k.bound s).lookup key := by
  rw [k.lookup_leave]
  split
  · rfl
  · rename_i hfree
    have hnone : fields.lookup key = none :=
      lookup_eq_none_of_notMem fun v hmem => hfree (List.mem_map_of_mem (f := Prod.fst) hmem)
    rw [hinner, k.lookup_enter, hnone, Option.none_or]

/-- **Nothing leaks**: a script leaves every key bound as it found it, and so it does when it breaks
off. -/
theorem lookup_play (script : Script) (s : k.State) (key : String) :
    (k.bound (k.play script s).state).lookup key = (k.bound s).lookup key := by
  induction script generalizing s with
  | done => rfl
  | breakOff => rfl
  | say e rest ih => exact ih s
  | within fields work rest ihwork ihrest =>
    have hleft := lookup_leave_of_same (ihwork (k.enter fields s))
    rw [play]
    dsimp only
    split
    · exact hleft
    · exact (ihrest _).trans hleft

end ContextKeeper

/-! ## Events in a context -/

/-- Two events that differ at most in the order in which they say things. -/
structure Event.Alike (e e' : Event) : Prop where
  level : e.level = e'.level
  logger : e.logger = e'.logger
  name : e.name = e'.name
  context : ∀ key, e.context.lookup key = e'.context.lookup key

namespace Event

variable {e e' : Event} {fields gs : Fields}

/-- What an event says in a context: its own word first. -/
theorem lookup_inContext (e : Event) (fields : Fields) (key : String) :
    (e.inContext fields).context.lookup key =
      (e.context.lookup key).or (fields.lookup key) := by
  rw [inContext, List.lookup_append]
  cases hown : e.context.lookup key with
  | some v => rfl
  | none =>
    have hfree : key ∉ e.context.map (·.1) := by
      rw [List.mem_map]
      rintro ⟨⟨n, v⟩, hmem, rfl⟩
      exact notMem_of_lookup_eq_none hown hmem
    have hkeep : (!(e.context.map (·.1)).contains key) = true := by simpa using hfree
    rw [Option.none_or, Option.none_or,
      lookup_filter_name (fun n => !(e.context.map (·.1)).contains n), if_pos hkeep]

/-- Contexts that bind the same make events that are alike. -/
theorem alike_inContext (h : ∀ key, fields.lookup key = gs.lookup key) (e : Event) :
    (e.inContext fields).Alike (e.inContext gs) :=
  ⟨rfl, rfl, rfl, fun key => by rw [lookup_inContext, lookup_inContext, h]⟩

end Event

namespace ContextKeeper

variable {k : ContextKeeper} {s : k.State}

/-- A script that says some events and goes on. -/
def sayAll (es : List Event) (rest : Script) : Script := es.foldr .say rest

/-- A script of jobs, each of which says its events within its fields. -/
def jobs (js : List (Fields × List Event)) (rest : Script) : Script :=
  js.foldr (fun (fields, es) rest => .within fields (sayAll es .done) rest) rest

theorem play_sayAll (es : List Event) (rest : Script) (s : k.State) :
    k.play (sayAll es rest) s =
      { k.play rest s with said := es.map (·.inContext (k.bound s)) ++ (k.play rest s).said } := by
  induction es with
  | nil => rfl
  | cons e es ih =>
    change k.play (.say e (sayAll es rest)) s = _
    rw [play, ih]
    rfl

/-- **One job** says its events within its fields, and the rest goes on as if nothing had been
bound. -/
theorem said_jobs_cons (fields : Fields) (es : List Event) (js : List (Fields × List Event))
    (rest : Script) (s : k.State) : ∃ s' : k.State,
      (∀ key, (k.bound s').lookup key = (k.bound s).lookup key) ∧
      (k.play (jobs ((fields, es) :: js) rest) s).said =
        es.map (·.inContext (k.bound (k.enter fields s))) ++ (k.play (jobs js rest) s').said := by
  refine ⟨k.leave fields s (k.enter fields s), fun key => lookup_leave_of_same rfl, ?_⟩
  change (k.play (.within fields (sayAll es .done) (jobs js rest)) s).said = _
  rw [play, play_sayAll]
  simp [play]

/-- What is said within fields, and whatever is bound around them. -/
theorem alike_inContext_enter {outer : Fields}
    (houter : ∀ key, (k.bound s).lookup key = outer.lookup key) (fields : Fields) (e : Event) :
    (e.inContext (k.bound (k.enter fields s))).Alike ((e.inContext fields).inContext outer) := by
  refine ⟨rfl, rfl, rfl, fun key => ?_⟩
  rw [Event.lookup_inContext, Event.lookup_inContext, Event.lookup_inContext, k.lookup_enter,
    houter, Option.or_assoc]

/-- **A list of jobs** says what each says within its own fields, and in whatever is bound around
all of them. -/
theorem said_jobs {outer : Fields} (houter : ∀ key, (k.bound s).lookup key = outer.lookup key)
    (js : List (Fields × List Event)) (es : List Event) :
    List.Forall₂ Event.Alike (k.play (jobs js (sayAll es .done)) s).said
      (((js.flatMap fun (fields, es) => es.map (·.inContext fields)) ++ es).map
        (·.inContext outer)) := by
  induction js generalizing s with
  | nil =>
    have hsaid : (k.play (jobs [] (sayAll es .done)) s).said =
        es.map (·.inContext (k.bound s)) := by
      change (k.play (sayAll es .done) s).said = _
      rw [play_sayAll]
      simp [play]
    rw [hsaid, List.flatMap_nil, List.nil_append, List.forall₂_map_left_iff,
      List.forall₂_map_right_iff, List.forall₂_same]
    exact fun e _ => Event.alike_inContext houter e
  | cons j js ih =>
    obtain ⟨fields, es'⟩ := j
    obtain ⟨s', hsame, hsaid⟩ := said_jobs_cons fields es' js (sayAll es .done) s
    have hrest := ih fun key => (hsame key).trans (houter key)
    rw [hsaid, List.flatMap_cons, List.append_assoc, List.map_append]
    refine List.rel_append ?_ hrest
    dsimp only
    rw [List.map_map, List.forall₂_map_left_iff, List.forall₂_map_right_iff, List.forall₂_same]
    exact fun e _ => alike_inContext_enter houter fields e

end ContextKeeper
end QuestFlow

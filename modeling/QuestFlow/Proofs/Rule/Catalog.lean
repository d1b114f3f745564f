import QuestFlow.Proofs.Rule.Own
import QuestFlow.Proofs.Rule.References

/-!
# When the catalog grows

A catalog that knows more entities finds fewer of them missing.  What is gone from the report of a
quest is told exactly, and what is left is what was there, in its order.

1. **Entities in problems** — `Problem.entity?` is the entity that a problem names, with the kind
   under which it was looked up.  The problem at an ID in a condition or an action names that ID and
   the kind that the position wants (`Requirement.named_of_mem`, `Effect.named_of_mem`).
2. **Reports left out** — the crux: whether a report is kept can be told from the ID at its
   position, so leaving out reports is the same as selecting fewer IDs (`Quest.filter_reportsOn`).
3. **The other rules** name no entity (`Rule.nameNoEntity`) and never look at the catalog, so they
   are a part in front and a part behind that stay (`Quest.exists_findings_eq`).
4. **The comparison** — `Quest.catalogGrown` has both reports, and what was at the places that are
   gone.
-/

namespace QuestFlow

/-- Every ID that the one catalog knows is known to the other, as one of the same kind. -/
def Catalog.Within (c c' : Catalog) : Prop := ∀ kind, c.ids kind ⊆ c'.ids kind

/-- The one catalog does not know the entity, and the other does. -/
def Catalog.settles (c c' : Catalog) (entity? : Option (EntityKind × String)) : Bool :=
  entity?.any fun (kind, id) => c'.knows kind id && !c.knows kind id

/-! ## Entities in problems -/

/-- The entity that is missing, if that is the problem: its ID, and the kind under which it was
looked up. -/
def Problem.entity? : Problem → Option (EntityKind × String)
  | .unknownPartner id | .unknownSpeaker id | .unknownMessageSpeaker id => some (.character, id)
  | .unknownReference r => some (r.kind, r.id)
  | _ => none

/-- The problem at an ID names the entity. -/
def Naming.Named (m : Naming) : Prop := m.problem.entity? = some (m.kind, m.id)

theorem Requirement.named_of_mem {a : Requirement} {m : Naming} (hm : m ∈ a.namings) :
    m.Named := by
  cases a with
  | inventory items =>
    obtain ⟨id, -, rfl⟩ := List.mem_map.1 hm
    rfl
  | itemUsedOnObject _ _ | itemUsedOnNpc _ _ =>
    rcases List.mem_pair.1 hm with rfl | rfl <;> rfl
  | resourceAvailability _ | factionStanding _ | itemLost _ =>
    obtain rfl := List.mem_singleton.1 hm
    rfl
  | questCompleted _ | unrecognized => cases hm

theorem Effect.named_of_mem {a : Effect} {m : Naming} (hm : m ∈ a.namings) : m.Named := by
  cases a with
  | itemsGained items | itemsLost items =>
    obtain ⟨id, -, rfl⟩ := List.mem_map.1 hm
    rfl
  | factionStanding _ =>
    obtain rfl := List.mem_singleton.1 hm
    rfl
  | ending _ | journalEntry | stageDescription _ | unrecognized => cases hm

/-! ## Reports left out -/

section LeftOut

variable {selects : Naming → Bool} (keeps : Option (EntityKind × String) → Bool)

/-- Leaving out reports by the entity they name is selecting fewer IDs. -/
theorem Node.filter_reportsOn (n : Node) {ms : List Naming} (hnamed : ∀ m ∈ ms, m.Named) :
    (n.reportsOn selects ms).filter (fun f => keeps f.problem.entity?) =
      n.reportsOn (fun m => selects m && keeps (some (m.kind, m.id))) ms := by
  rw [reportsOn, reportsOn, List.filter_flatMap]
  refine List.flatMap_congr fun m hm => ?_
  have hentity : m.problem.entity? = some (m.kind, m.id) := hnamed m hm
  rw [findIf, findIf]
  cases hselects : selects m with
  | false => rfl
  | true => cases hkeeps : keeps (some (m.kind, m.id)) <;> simp [hentity, hkeeps]

theorem Node.filter_voiceReports (n : Node) :
    (n.voiceReports selects).filter (fun f => keeps f.problem.entity?) =
      n.voiceReports fun m => selects m && keeps (some (m.kind, m.id)) := by
  have hspeech : ∀ (naming : Speech → Naming), (∀ s, (naming s).Named) →
      ∀ m ∈ (n.body.speech?.map naming).toList, m.Named := by
    intro naming hnaming m hm
    obtain ⟨s, -, rfl⟩ := Option.map_eq_some_iff.1 (Option.mem_toList.1 hm)
    exact hnaming s
  have hmessages : ∀ m ∈ n.body.messages.map Naming.message, m.Named := by
    intro m hm
    obtain ⟨message, -, rfl⟩ := List.mem_map.1 hm
    rfl
  rw [voiceReports, List.filter_append, List.filter_append,
    n.filter_reportsOn keeps (hspeech .partner fun _ => rfl),
    n.filter_reportsOn keeps (hspeech .speaker fun _ => rfl), n.filter_reportsOn keeps hmessages]
  rfl

theorem Node.filter_payloadReports (n : Node) :
    (n.payloadReports selects).filter (fun f => keeps f.problem.entity?) =
      n.payloadReports fun m => selects m && keeps (some (m.kind, m.id)) := by
  have hconditions : ∀ cs : List Condition,
      (cs.flatMap fun c => n.reportsOn selects c.requirement.namings).filter
          (fun f => keeps f.problem.entity?) =
        cs.flatMap fun c => n.reportsOn (fun m => selects m && keeps (some (m.kind, m.id)))
          c.requirement.namings := by
    intro cs
    rw [List.filter_flatMap]
    exact List.flatMap_congr fun c _ =>
      n.filter_reportsOn keeps fun _ hm => Requirement.named_of_mem hm
  have hactions : (n.actions.flatMap fun a => n.reportsOn selects a.effect.namings).filter
          (fun f => keeps f.problem.entity?) =
        n.actions.flatMap fun a => n.reportsOn (fun m => selects m && keeps (some (m.kind, m.id)))
          a.effect.namings := by
    rw [List.filter_flatMap]
    exact List.flatMap_congr fun a _ =>
      n.filter_reportsOn keeps fun _ hm => Effect.named_of_mem hm
  rw [payloadReports, List.filter_append, List.filter_append, hconditions, hactions,
    List.filter_flatMap, payloadReports]
  simp only [hconditions]

theorem Quest.filter_reportsOn (q : Quest) :
    (q.reportsOn selects).filter (fun f => keeps f.problem.entity?) =
      q.reportsOn fun m => selects m && keeps (some (m.kind, m.id)) := by
  rw [reportsOn, List.filter_flatMap]
  refine List.flatMap_congr fun n _ => ?_
  rw [List.filter_append, n.filter_voiceReports keeps, n.filter_payloadReports keeps]

end LeftOut

/-! ## The other rules -/

section OtherRules

/-- None of the findings names an entity. -/
def NameNoEntity (fs : List Finding) : Prop := ∀ f ∈ fs, f.problem.entity? = none

/-- What is told by the entity alone is told of all of them alike. -/
theorem NameNoEntity.filter {fs : List Finding} (hfs : NameNoEntity fs)
    (keeps : Option (EntityKind × String) → Bool) :
    fs.filter (fun f => keeps f.problem.entity?) = if keeps none then fs else [] := by
  split
  next hkeeps => exact List.filter_eq_self.2 fun f hf => by rw [hfs f hf, hkeeps]
  next hkeeps => exact List.filter_eq_nil_iff.2 fun f hf => by rw [hfs f hf]; exact hkeeps

variable (context : RuleContext) (q : Quest)

theorem Rule.nameNoEntity {rule : Rule} (hrule : rule ≠ .references) :
    NameNoEntity (rule.findings context q) := by
  intro f hf
  have hown : f.problem.rule = rule := rule.reportedBy_findings context q f hf
  cases hproblem : f.problem with
  | unknownPartner _ | unknownSpeaker _ | unknownMessageSpeaker _ | unknownReference _ =>
    rw [hproblem] at hown
    exact absurd hown.symm hrule
  | _ => rfl

/-- Only what the rule about mentioned entities finds depends on the catalog, or names an entity. -/
theorem Quest.exists_findings_eq : ∃ before after, NameNoEntity before ∧ NameNoEntity after ∧
    ∀ catalog, q.findings { context with catalog } =
      before ++ (q.reportsOn (·.isReported catalog context.player) ++ after) := by
  obtain ⟨catalog, player, journal⟩ := context
  let others (rules : List Rule) : List Finding :=
    (rules.filter fun rule => journal || !rule.isAboutJournal).flatMap fun rule =>
      rule.findings ⟨catalog, player, journal⟩ q
  have hothers : ∀ rules, .references ∉ rules → NameNoEntity (others rules) := by
    intro rules hrules f hf
    obtain ⟨rule, hrule, hf⟩ := List.mem_flatMap.1 hf
    have hmem : rule ∈ rules := List.mem_of_mem_filter hrule
    exact Rule.nameNoEntity _ q (fun heq => hrules (heq ▸ hmem)) f hf
  refine ⟨others [.uniqueIds, .edges, .incoming, .entryPoint, .endings, .decisions,
      .conditionBranches, .flatNodes, .acyclic],
    others [.journalAtStart, .journalAtEnd, .referenced], hothers _ (by decide),
    hothers _ (by decide), fun catalog => ?_⟩
  rw [← references_eq_reportsOn]
  cases journal <;> simp [findings, others, Rule.all, Rule.isAboutJournal, Rule.findings]

end OtherRules

/-! ## The comparison -/

/-- The finding is about an entity that the one catalog does not know, and the other does. -/
def Finding.isSettled (c c' : Catalog) (f : Finding) : Bool :=
  c.settles c' f.problem.entity?

/-- The finding is about an entity of the kind. -/
def Finding.isOfKind (kind : EntityKind) (f : Finding) : Bool :=
  f.problem.entity?.any (·.1 == kind)

/-- What is looked up in vain in the greater catalog is what is so in the smaller one, and not
settled. -/
theorem Naming.isReported_of_within {c c' : Catalog} (hwithin : c.Within c') (player : String)
    (m : Naming) : m.isReported c' player =
      (m.isReported c player && !c.settles c' (some (m.kind, m.id))) := by
  have hknows : c.knows m.kind m.id = true → c'.knows m.kind m.id = true := by
    rw [Catalog.knows_iff, Catalog.knows_iff]
    exact fun hmem => hwithin m.kind hmem
  simp only [isReported, isUnknown, Catalog.settles, Option.any_some]
  cases hknown : c.knows m.kind m.id with
  | true => simp [hknows hknown]
  | false => cases c'.knows m.kind m.id <;> simp

theorem Naming.isReported_congr {c c' : Catalog} {m : Naming}
    (hids : c.ids m.kind ⊆ c'.ids m.kind) (hids' : c'.ids m.kind ⊆ c.ids m.kind)
    (player : String) : m.isReported c player = m.isReported c' player := by
  have hknows : c.knows m.kind m.id = c'.knows m.kind m.id := by
    rw [Bool.eq_iff_iff, Catalog.knows_iff, Catalog.knows_iff]
    exact ⟨fun hmem => hids hmem, fun hmem => hids' hmem⟩
  rw [isReported, isReported, isUnknown, isUnknown, hknows]

namespace Quest

/-- The reports on a quest with two catalogs, of which the one has all that the other has. -/
structure CatalogGrown (q : Quest) (context : RuleContext) (c c' : Catalog) : Prop where
  /-- the report is what it was, in its order, without the findings that are settled -/
  issues_eq : q.issues { context with catalog := c' } =
    ((q.findings { context with catalog := c }).filter (!·.isSettled c c')).map (·.issue)
  /-- those are one for each place with a report on an ID that is new among those of its kind -/
  settled : OneForEach
    (q.ReportAt fun m => m.isReported c context.player && c'.knows m.kind m.id)
    ((q.findings { context with catalog := c }).filter (·.isSettled c c'))
  /-- where a kind has no new IDs, all stays that is about it -/
  same_kind : ∀ kind, c'.ids kind ⊆ c.ids kind →
    (q.findings { context with catalog := c' }).filter (·.isOfKind kind) =
      (q.findings { context with catalog := c }).filter (·.isOfKind kind)
  /-- to have no catalog is to have one without IDs -/
  unset : (∀ kind, c.ids kind = []) → q.issues { context with catalog := c } =
    q.issues { player := context.player, journal := context.journal }

variable {c c' : Catalog}

/-- What is left of a report in a greater catalog. -/
theorem findings_eq_filter (hwithin : c.Within c') (context : RuleContext) (q : Quest) :
    q.findings { context with catalog := c' } =
      (q.findings { context with catalog := c }).filter (!·.isSettled c c') := by
  obtain ⟨before, after, hbefore, hafter, hfindings⟩ := exists_findings_eq context q
  let keeps (entity? : Option (EntityKind × String)) : Bool := !c.settles c' entity?
  have hselected : (fun m : Naming => m.isReported c' context.player) = fun m =>
      m.isReported c context.player && keeps (some (m.kind, m.id)) :=
    funext (Naming.isReported_of_within hwithin context.player)
  calc q.findings { context with catalog := c' }
      = before ++ (q.reportsOn (·.isReported c' context.player) ++ after) := hfindings c'
    _ = (before ++ (q.reportsOn (·.isReported c context.player) ++ after)).filter
          (fun f => keeps f.problem.entity?) := by
        rw [List.filter_append, List.filter_append, hbefore.filter keeps, hafter.filter keeps,
          q.filter_reportsOn keeps, hselected]
        rfl
    _ = (q.findings { context with catalog := c }).filter (!·.isSettled c c') := by
        rw [hfindings c]
        rfl

/-- Findings that are told by the entity they name are found at the places of its ID. -/
theorem filter_findings (context : RuleContext) (q : Quest) (catalog : Catalog)
    (keeps : Option (EntityKind × String) → Bool) (hnone : keeps none = false) :
    (q.findings { context with catalog }).filter (fun f => keeps f.problem.entity?) =
      q.reportsOn fun m => m.isReported catalog context.player && keeps (some (m.kind, m.id)) := by
  obtain ⟨before, after, hbefore, hafter, hfindings⟩ := exists_findings_eq context q
  rw [hfindings, List.filter_append, List.filter_append, hbefore.filter keeps, hafter.filter keeps,
    q.filter_reportsOn keeps, hnone]
  simp

/-- **A greater catalog leaves out what it settles**, and nothing else. -/
theorem catalogGrown (hwithin : c.Within c') (context : RuleContext) (q : Quest) :
    q.CatalogGrown context c c' where
  issues_eq := by rw [issues, findings_eq_filter hwithin]
  settled := by
    have hselected : (fun m : Naming => m.isReported c context.player &&
        c.settles c' (some (m.kind, m.id))) =
          fun m => m.isReported c context.player && c'.knows m.kind m.id := by
      funext m
      cases hknown : c.knows m.kind m.id <;>
        simp [Naming.isReported, Naming.isUnknown, Catalog.settles, hknown]
    have hfound := filter_findings context q c (c.settles c') rfl
    rw [hselected] at hfound
    exact hfound ▸ q.oneForEach_reportsOn _
  same_kind := by
    intro kind hids
    have hfound (catalog : Catalog) := filter_findings context q catalog
      (fun entity? => entity?.any (·.1 == kind)) rfl
    refine (hfound c').trans (Eq.trans ?_ (hfound c).symm)
    refine congrArg q.reportsOn (funext fun m => ?_)
    by_cases hkind : m.kind = kind
    · subst hkind
      rw [Naming.isReported_congr (hwithin _) hids]
    · have hother : (m.kind == kind) = false := beq_eq_false_iff_ne.2 hkind
      simp [hother]
  unset := by
    intro hnone
    obtain ⟨characters, items, factions, resources, objects⟩ := c
    obtain rfl : characters = [] := hnone .character
    obtain rfl : items = [] := hnone .item
    obtain rfl : factions = [] := hnone .faction
    obtain rfl : resources = [] := hnone .resource
    obtain rfl : objects = [] := hnone .object
    rfl

/-- A coin is tried on a coin, between two people. -/
def bazaar : Quest where
  id := "Q1"
  nodes := [⟨1, [⟨.null, .itemUsedOnNpc (some "coin") (some "coin")⟩],
    .dialog {} { partner := "coin", speaker := "Mira" } [{ speaker := "Oren" }, {}], []⟩]

/-- Where the coin is known as an item, it is still missing as a person. -/
theorem bazaar_catalogGrown :
    let known : Catalog := { characters := ["Mira"] }
    let more : Catalog := { characters := ["Oren", "Mira"], items := ["coin"] }
    known.Within more ∧ bazaar.CatalogGrown {} known more ∧
      Findings.references known "Player" bazaar =
        [⟨.unknownPartner "coin", some 1⟩, ⟨.unknownMessageSpeaker "Oren", some 1⟩,
          ⟨.unknownMessageSpeaker "", some 1⟩,
          ⟨.unknownReference ⟨.item, "coin", "ItemUsedOnNPC"⟩, some 1⟩,
          ⟨.unknownReference ⟨.character, "coin", "ItemUsedOnNPC"⟩, some 1⟩] ∧
      Findings.references more "Player" bazaar =
        [⟨.unknownPartner "coin", some 1⟩, ⟨.unknownMessageSpeaker "", some 1⟩,
          ⟨.unknownReference ⟨.character, "coin", "ItemUsedOnNPC"⟩, some 1⟩] := by
  intro known more
  have hwithin : known.Within more := by
    intro kind
    cases kind <;> simp [known, more, Catalog.ids]
  exact ⟨hwithin, catalogGrown hwithin {} bazaar, by decide, by decide⟩

end Quest
end QuestFlow

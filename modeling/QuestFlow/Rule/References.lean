import QuestFlow.Quest.Basic
import QuestFlow.Rule.Problem

/-!
# Rules about mentioned entities

Every entity that a quest mentions has to be in the catalog: who talks to whom, and what
conditions and actions name.  The player is no entity and may speak without being in the
catalog.  An ID that was left out is no mention, except that each message of a dialog needs a
speaker.
-/

namespace QuestFlow.Findings

/-- The mentions that the catalog does not know. -/
def unknownReferences (catalog : Catalog) (n : Node) (mentions : List Reference) : List Finding :=
  mentions.flatMap fun r => n.findIf (!catalog.knows r.kind r.id) (.unknownReference r)

/-- The people a speech names that the catalog does not know. -/
def unknownSpeakers (catalog : Catalog) (player : String) (n : Node) : List Finding :=
  let unknown (id : String) : Bool := !catalog.knows .character id
  (match n.body.speech? with
    | some s =>
      n.findIf (s.partner != "" && unknown s.partner) (.unknownPartner s.partner) ++
        n.findIf (s.speaker != "" && s.speaker != player && unknown s.speaker)
          (.unknownSpeaker s.speaker)
    | none => []) ++
    n.body.messages.flatMap fun m =>
      n.findIf (m.speaker != player && unknown m.speaker) (.unknownMessageSpeaker m.speaker)

/-- All mentions of a node in its conditions, those of its options, and its actions. -/
def mentions (n : Node) : List Reference :=
  n.allConditions.flatMap (·.references) ++ n.actions.flatMap (·.references)

/-- Every entity that is mentioned is known. -/
def references (catalog : Catalog) (player : String) (q : Quest) : List Finding :=
  q.nodes.flatMap fun n =>
    unknownSpeakers catalog player n ++ unknownReferences catalog n (mentions n)

end QuestFlow.Findings

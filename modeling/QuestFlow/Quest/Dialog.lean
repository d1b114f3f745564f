import QuestFlow.Quest.Localized
import QuestFlow.Quest.Payload

/-!
# The parts of a conversation

A dialog is a run of messages; a decision offers options, and each option leads on by itself.
-/

namespace QuestFlow

/-- One message of a dialog. -/
structure DialogMessage where
  speaker : String := ""
  text : Localized := {}
  extra : Extra := []
  deriving DecidableEq, Repr

/-- A choice that a player is offered: it may have conditions, and it names the nodes it leads to.
-/
structure DialogOption where
  text : Localized := {}
  conditions : List Condition := []
  next : List Int := []
  extra : Extra := []
  deriving DecidableEq, Repr

/-! ## In documents -/

/-- Reads a list of conditions; any value is one. -/
def readConditions : Value → Checked (List Condition) :=
  Value.readList fun v => .ok (.ofValue v)

/-- Reads a list of actions; any value is one. -/
def readActions : Value → Checked (List Action) :=
  Value.readList fun v => .ok (.ofValue v)

/-- Reads a list of node IDs. -/
def readTargets : Value → Checked (List Int) := Value.readList Value.readInt

/-- Writes a list of conditions: each as it stood in the document. -/
def writeConditions (cs : List Condition) : Value := .list (cs.map (·.raw))

/-- Writes a list of actions: each as it stood in the document. -/
def writeActions (as : List Action) : Value := .list (as.map (·.raw))

def textField : Spelled := ⟨"Text", "text"⟩
def speakerField : Spelled := ⟨"Speaker", "speaker"⟩
def conditionsField : Spelled := ⟨"Conditions", "conditions"⟩
def nextField : Spelled := ⟨"NextNodes", "next_nodes"⟩

namespace DialogMessage

/-- The fields of a message. -/
def fields : List Spelled := [speakerField, textField]

/-- Reads a message. -/
def read : Value → Checked DialogMessage :=
  record "DialogMessage" fun es =>
    (((speakerField.optional Value.readText "" es).map DialogMessage.mk).seq
      (textField.optional Localized.read {} es)).seq
      (leftOver fields es)

/-- The entries that a message is written as. -/
def entries (nulls : Nulls) (m : DialogMessage) : Fields :=
  [("Speaker", .text m.speaker), ("Text", m.text.write nulls)] ++ m.extra

/-- Writes a message. -/
def write (nulls : Nulls) (m : DialogMessage) : Value := writeRecord nulls (m.entries nulls)

end DialogMessage

namespace DialogOption

/-- The fields of an option. -/
def fields : List Spelled := [textField, conditionsField, nextField]

/-- Reads an option. -/
def read : Value → Checked DialogOption :=
  record "DialogOption" fun es =>
    ((((textField.optional Localized.read {} es).map DialogOption.mk).seq
      (conditionsField.optional readConditions [] es)).seq
      (nextField.optional readTargets [] es)).seq
      (leftOver fields es)

/-- The entries that an option is written as. -/
def entries (nulls : Nulls) (o : DialogOption) : Fields :=
  [("Text", o.text.write nulls), ("Conditions", writeConditions o.conditions),
    ("NextNodes", .ofInts o.next)] ++ o.extra

/-- Writes an option. -/
def write (nulls : Nulls) (o : DialogOption) : Value := writeRecord nulls (o.entries nulls)

end DialogOption

/-- Reads a list of options. -/
def readOptions : Value → Checked (List DialogOption) := Value.readList DialogOption.read

end QuestFlow

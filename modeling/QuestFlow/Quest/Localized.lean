import QuestFlow.Document.Field

/-!
# Localized texts

A text that players see is written once for each locale.  Two locales are supported and always
present, empty if nothing was given; any other entry is kept and can be asked for by its key.
-/

namespace QuestFlow

/-- The locales that every localized text has. -/
def supportedLocales : List String := ["en-US", "de-DE"]

/-- A text in several locales. -/
structure Localized where
  english : String := ""
  german : String := ""
  /-- entries for other locales, and whatever else the document has here -/
  extra : Extra := []
  deriving DecidableEq, Repr

namespace Localized

/-- The text in a locale; empty if there is none. -/
def get (t : Localized) (locale : String) : String :=
  if locale = "en-US" then t.english
  else if locale = "de-DE" then t.german
  else match t.extra.lookup locale with
    | some (.text s) => s
    | _ => ""

/-! ## In documents -/

def englishField : Spelled := ⟨"en-US", "en_us"⟩
def germanField : Spelled := ⟨"de-DE", "de_de"⟩

/-- The fields of a localized text. -/
def fields : List Spelled := [englishField, germanField]

/-- Reads a localized text. -/
def read : Value → Checked Localized :=
  record "I18nString" fun es =>
    (((englishField.optional Value.readText "" es).map Localized.mk).seq
      (germanField.optional Value.readText "" es)).seq
      (leftOver fields es)

/-- The entries that a localized text is written as. -/
def entries (t : Localized) : Fields :=
  [("en-US", .text t.english), ("de-DE", .text t.german)] ++ t.extra

/-- Writes a localized text. -/
def write (nulls : Nulls) (t : Localized) : Value := writeRecord nulls t.entries

end Localized
end QuestFlow

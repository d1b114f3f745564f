import QuestFlow.Text.Order

/-!
# The catalog of game entities

A quest names characters, items, factions, resources and world objects by their IDs.  The catalog
knows which IDs exist, one set for each kind, and answers nothing else.  A kind without data has the
empty set, so every reference of that kind is unknown.
-/

namespace QuestFlow

/-- The kinds of entity that a quest can refer to. -/
inductive EntityKind where
  | character | item | faction | resource | object
  deriving DecidableEq, Repr

namespace EntityKind

/-- All kinds, in the order in which their files are read. -/
def all : List EntityKind := [.character, .item, .faction, .resource, .object]

/-- The name of a kind. -/
def name : EntityKind → String
  | .character => "character"
  | .item => "item"
  | .faction => "faction"
  | .resource => "resource"
  | .object => "object"

/-- What an issue calls an entity of this kind. -/
def noun : EntityKind → String
  | .character => "NPC"
  | .item => "item"
  | .faction => "faction"
  | .resource => "resource"
  | .object => "object"

/-- The plural under which the data directory and the service keep a kind. -/
def collection : EntityKind → String
  | .character => "npcs"
  | .item => "items"
  | .faction => "factions"
  | .resource => "resources"
  | .object => "objects"

/-- The file of the data directory that lists the entities of a kind. -/
def fileName (k : EntityKind) : String := k.collection ++ ".yaml"

/-- The entry of such a file under which the ID stands. -/
def idKey : EntityKind → String
  | .character => "NPCID"
  | .item => "ItemID"
  | .faction => "FactionID"
  | .resource => "ResourceID"
  | .object => "ObjectID"

/-- The kind of the given name. -/
def ofName? (s : String) : Option EntityKind := all.find? (·.name == s)

theorem mem_all (k : EntityKind) : k ∈ all := by cases k <;> simp [all]

end EntityKind

/-- The known IDs of each kind. -/
structure Catalog where
  characters : List String := []
  items : List String := []
  factions : List String := []
  resources : List String := []
  objects : List String := []
  deriving DecidableEq, Repr

namespace Catalog

/-- The catalog that knows nothing. -/
def empty : Catalog := {}

/-- The known IDs of a kind. -/
def ids (c : Catalog) : EntityKind → List String
  | .character => c.characters
  | .item => c.items
  | .faction => c.factions
  | .resource => c.resources
  | .object => c.objects

/-- The catalog with the given IDs of each kind. -/
def ofKinds (ids : EntityKind → List String) : Catalog :=
  ⟨ids .character, ids .item, ids .faction, ids .resource, ids .object⟩

/-- Whether an entity of the kind has this ID. -/
def knows (c : Catalog) (kind : EntityKind) (id : String) : Bool := (c.ids kind).contains id

/-- The IDs of a kind as they are listed: in rising order, each once. -/
def listing (c : Catalog) (kind : EntityKind) : List String := Text.sortedDistinct (c.ids kind)

@[simp] theorem ids_ofKinds (f : EntityKind → List String) (k : EntityKind) :
    (ofKinds f).ids k = f k := by
  cases k <;> rfl

@[simp] theorem knows_iff {c : Catalog} {k : EntityKind} {id : String} :
    c.knows k id = true ↔ id ∈ c.ids k := by
  simp [knows]

@[simp] theorem ids_empty (k : EntityKind) : empty.ids k = [] := by cases k <;> rfl

end Catalog
end QuestFlow

import QuestFlow.Files.Source
import QuestFlow.Log.Source

/-!
# The catalogs of a data directory

The data directory has one file for each kind of entity: a list of mappings, each with the ID of
an entity under the key of its kind.  Nothing else in the file is read.  A file that is not there
is an empty catalog, and so is an empty file.  An entry without an ID is passed over, but one that
is no mapping makes the file unusable.  Loading breaks down over a file that cannot be looked up,
and over one that the reader breaks down over.
-/

namespace QuestFlow

/-- The IDs found up to the end of a list of entries, or the index of the first entry that is no
mapping; and what there is to say about the entries up to there.  `index` counts the entries. -/
def catalogEntries (kind : EntityKind) (key : String) (index : Nat) :
    List Value → Logged (Except Nat (List String))
  | [] => .quiet (.ok [])
  | .mapping entries :: rest =>
    match (Value.lookup key entries).bind Value.filledText? with
    | some id => (catalogEntries kind key (index + 1) rest).andThen fun found =>
        .quiet (found.map (id :: ·))
    | none =>
      (Logged.say (Source.catalogFiles.event .debug "catalog_entry_without_id"
        [("kind", .text kind.name), ("index", .int index), ("key", .text key)])).andThen fun _ =>
          catalogEntries kind key (index + 1) rest
  | _ :: _ => .quiet (.error index)

namespace FileTree

/-- The IDs in the catalog file of a kind, each once. -/
def loadIds (t : FileTree) (kind : EntityKind) (p : Path) (key : String) :
    Logged (Except Failure (List String)) :=
  let error (cause : SourceCause) : Failure := .source ⟨.catalog (some kind), p, cause⟩
  match t.find? p with
  | .error fault => .quiet (.error (.breakdown (.path p fault)))
  | .ok none => ⟨.ok [], [Source.catalogFiles.event .info "catalog_file_missing"
      [("kind", .text kind.name), ("path", .text p.text)]]⟩
  | .ok (some _) => match t.read p with
    | .error fault => match fault.breakdown? p with
      | some b => .quiet (.error (.breakdown b))
      | none => .quiet (.error (error (.unreadable fault)))
    | .ok .null => .quiet (.ok [])
    | .ok (.list entries) => (catalogEntries kind key 0 entries).andThen fun
      | .ok ids => .quiet (.ok ids.eraseDups)
      | .error index => .quiet (.error (error (.entryNotMapping index)))
    | .ok _ => .quiet (.error (error .notList))

/-- The IDs in the catalog files of some kinds, one kind after another. -/
def loadKinds (t : FileTree) (dir : Path) :
    List EntityKind → Logged (Except Failure (List (EntityKind × List String)))
  | [] => .quiet (.ok [])
  | kind :: kinds =>
    (t.loadIds kind (dir.child kind.fileName) kind.idKey).andThenOk fun ids =>
      (t.loadKinds dir kinds).andThenOk fun rest => .quiet (.ok ((kind, ids) :: rest))

/-- The catalog of a data directory. -/
def loadCatalog (t : FileTree) (dir : Path) : Logged (Except Failure Catalog) :=
  match t.directory (.catalog none) dir with
  | .error e => .quiet (.error e)
  | .ok _ => (t.loadKinds dir EntityKind.all).andThenOk fun sets =>
    ⟨.ok (.ofKinds fun kind => (sets.lookup kind).getD []),
      [Source.catalogFiles.event .debug "catalog_loaded"
        (("data_dir", .text dir.text) ::
          sets.map fun (kind, ids) => (kind.name, .int ids.length))]⟩

end FileTree
end QuestFlow

import QuestFlow.Files.Tree

/-!
# Changing file trees

Directories are made together with those that have to hold them.  The directory that is asked for is
looked for first; where it is missing, its holder is made, and then the directory in it.  So a `..`
on the way stands behind a directory that is really there, and the directories that were made stay
even if a later one cannot be.  There is a limit to how many can be made at once.  Whether the
program may write somewhere is not looked at: every directory that lets it through lets it write.

A directory is removed in two steps: it is emptied, and then its path has to lead to it once more.
A path that goes through the directory itself leads nowhere by then, and the directory stays, empty.
-/

namespace QuestFlow

/-- Why nothing can be written or removed at a path. -/
inductive WriteCause where
  | path (fault : PathFault)
  /-- a file is where a directory should be made -/
  | fileInPlace
  /-- a directory is where a file should be written -/
  | isDirectory
  /-- the directory to be removed has no name in the path -/
  | nameless
  /-- more directories would have to be made than can be made at once -/
  | tooManyLevels
  deriving DecidableEq, Repr

/-- A path at which nothing can be written or removed. -/
structure WriteFault where
  path : Path
  cause : WriteCause
  deriving DecidableEq, Repr

/-- The message about it. -/
def WriteFault.message (f : WriteFault) : String :=
  match f.cause with
  | .path fault => fault.message f.path
  | .fileInPlace => "[Errno 17] File exists: " ++ Text.quoted f.path.text
  | .isDirectory => "[Errno 21] Is a directory: " ++ Text.quoted f.path.text
  | .nameless => "[Errno 22] Invalid argument: " ++ Text.quoted f.path.text
  | .tooManyLevels => "too many directories to make at once"

/-- The greatest number of directories that are made at once. -/
def levelLimit : Nat := 988

namespace FileTree

/-- Sets what is at a place. -/
def setEntry (place : Place) (e : FileEntry) : List (Place × FileEntry) → List (Place × FileEntry)
  | [] => [(place, e)]
  | (q, f) :: rest => if q = place then (q, e) :: rest else (q, f) :: setEntry place e rest

/-- The tree with something else at a place. -/
def put (t : FileTree) (place : Place) (e : FileEntry) : FileTree :=
  { t with entries := setEntry place e t.entries }

/-- What was set at a place is there. -/
theorem lookup_setEntry_self (place : Place) (e : FileEntry) (entries : List (Place × FileEntry)) :
    (setEntry place e entries).lookup place = some e := by
  induction entries with
  | nil => simp [setEntry]
  | cons head rest ih =>
    obtain ⟨q, f⟩ := head
    by_cases h : q = place
    · simp [setEntry, h]
    · have : (place == q) = false := by simpa using fun hq => h hq.symm
      simp [setEntry, h, List.lookup_cons, this, ih]

/-- What is at other places stays. -/
theorem lookup_setEntry_of_ne {place other : Place} (h : other ≠ place) (e : FileEntry)
    (entries : List (Place × FileEntry)) :
    (setEntry place e entries).lookup other = entries.lookup other := by
  have hp : (other == place) = false := by simpa using h
  induction entries with
  | nil => simp [setEntry, List.lookup_cons, hp]
  | cons head rest ih =>
    obtain ⟨q, f⟩ := head
    by_cases hq : q = place
    · subst hq
      simp [setEntry, List.lookup_cons, hp]
    · simp [setEntry, hq, List.lookup_cons, ih]

/-! ## Making directories -/

/-- The place, if a directory is there. -/
def asDirectory (t : FileTree) (p : Path) (place : Place) : Except WriteFault Place :=
  if t.isDirectoryAt place then .ok place else .error ⟨p, .fileInPlace⟩

/-- Makes a directory in its holder, unless it is there already.  Gives its place. -/
def makeIn (t : FileTree) (p : Path) (holder : Place) : Except WriteFault Place × FileTree :=
  match t.walk holder [p.name] with
  | .ok place => (t.asDirectory p place, t)
  | .error .missing =>
    let place := holder ++ [p.name]
    (.ok place, t.put place .directory)
  | .error fault => (.error ⟨p, .path fault⟩, t)

/-- Makes the directory with the given components, the last one first, and those that hold it.
Gives its place.  Not more than `levels` of them may be missing. -/
def makeUpward (t : FileTree) (anchor : Anchor) (levels : Nat) :
    List String → Except WriteFault Place × FileTree
  | [] => (.ok (t.start ⟨anchor, []⟩), t)
  | name :: above =>
    let p : Path := ⟨anchor, (name :: above).reverse⟩
    match t.resolve p with
    | .ok place => (t.asDirectory p place, t)
    | .error .missing =>
      if levels = 0 then (.error ⟨p, .tooManyLevels⟩, t)
      else match t.makeUpward anchor (levels - 1) above with
        | (.ok holder, t) => t.makeIn p holder
        | (.error fault, t) => (.error fault, t)
    | .error fault => (.error ⟨p, .path fault⟩, t)

/-- Makes a directory and those that hold it.  Gives its place. -/
def makeDirectory (t : FileTree) (p : Path) : Except WriteFault Place × FileTree :=
  t.makeUpward p.anchor levelLimit p.parts.reverse

/-! ## Writing and removing -/

/-- Writes a file into the directory that holds it. -/
def addFile (t : FileTree) (p : Path) (holder : Place) (content : Content) :
    Except WriteFault Unit × FileTree :=
  match t.resolve p with
  | .ok place =>
    if t.isDirectoryAt place then (.error ⟨p, .isDirectory⟩, t)
    else (.ok (), t.put place (.file content))
  | .error .missing => (.ok (), t.put (holder ++ [p.name]) (.file content))
  | .error fault => (.error ⟨p, .path fault⟩, t)

/-- Writes a file or makes a directory, and the directories that hold it. -/
def write (t : FileTree) (p : Path) : FileEntry → Except WriteFault Unit × FileTree
  | .directory =>
    let (made, t) := t.makeDirectory p
    (made.map fun _ => (), t)
  | .file content => match t.makeDirectory p.parent with
    | (.ok holder, t) => t.addFile p holder content
    | (.error fault, t) => (.error fault, t)

/-- Adds a log entry to the file at a place. -/
def appendLog (t : FileTree) (place : Place) (entry : Value) : FileTree :=
  match t.entry? place with
  | some (.file content) => t.put place (.file (content.append entry))
  | _ => t

/-- The tree with nothing below a place. -/
def emptied (t : FileTree) (place : Place) : FileTree :=
  { t with entries := t.entries.filter fun (q, _) => q == place || !place.isPrefixOf q }

/-- The tree with nothing at a place. -/
def without (t : FileTree) (place : Place) : FileTree :=
  { t with entries := t.entries.filter fun (q, _) => q != place }

/-- Removes the file or directory at the place that a path leads to. -/
def remove (t : FileTree) (p : Path) (place : Place) : Except WriteFault Unit × FileTree :=
  let t := t.emptied place
  if p.parts.isEmpty then (.error ⟨p, .nameless⟩, t)
  else match t.resolve p with
    | .ok _ => (.ok (), t.without place)
    | .error fault => (.error ⟨p, .path fault⟩, t)

end FileTree

/-- A tree with one file, and what writing beside it and through it does. -/
example :
    let t : FileTree := { here := [], entries := [(["f"], .file .empty)] }
    t.write ⟨.here, ["a", "..", "b"]⟩ (.file .empty) =
      (.ok (), { t with entries := t.entries ++ [(["a"], .directory), (["b"], .file .empty)] }) ∧
    t.write ⟨.here, ["f", "a"]⟩ (.file .empty) = (.error ⟨⟨.here, ["f"]⟩, .fileInPlace⟩, t) ∧
    (t.makeDirectory ⟨.here, ["f", "a", "b"]⟩).1 =
      .error ⟨⟨.here, ["f", "a", "b"]⟩, .path .throughFile⟩ :=
  ⟨rfl, rfl, rfl⟩

/-- A directory that is removed by its name, and one that is emptied by a path through itself. -/
example :
    let f : Place × FileEntry := (["f"], .file .empty)
    let t : FileTree := { here := [], entries := [(["a"], .directory), f] }
    t.remove ⟨.here, ["a"]⟩ ["a"] = (.ok (), { t with entries := [f] }) ∧
    t.remove ⟨.here, ["a", ".."]⟩ [] =
      (.error ⟨⟨.here, ["a", ".."]⟩, .path .missing⟩, { t with entries := [] }) :=
  ⟨rfl, rfl⟩

end QuestFlow

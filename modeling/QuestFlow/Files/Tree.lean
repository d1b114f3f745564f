import QuestFlow.Files.Content
import QuestFlow.Text.Quoted

/-!
# File trees

The files that a run can see are a value: directories and files by their places, counted from the
top of the file system.  One of the directories is the one that the program runs in; it and those
above it are always there.  Every place has one name for each directory on the way to it; there are
no links.

A path is resolved one component after another, as an operating system does it: every directory on
the way has to exist, even before a `..`, and what is above the top is the top.  It also has to let
the program through, and so has a file that is read.  No name may be longer than 255 bytes, and the
text of a path as a whole has to be shorter than 4096 bytes, wherever the path leads.
-/

namespace QuestFlow

/-- What is at a place in the tree. -/
inductive FileEntry where
  | directory
  | file (content : Content)
  deriving DecidableEq, Repr

/-- A place in the tree: the components on the way down from the top. -/
abbrev Place := List String

/-- Where a program stands, and what it may do from there. -/
structure Standpoint where
  /-- the directory that the program runs in -/
  here : Place
  /-- the files that may not be read, and the directories whose names may not be listed -/
  unreadable : List Place := []
  /-- the directories through which no path may lead -/
  unsearchable : List Place := []
  /-- how many directories, one in the other, a search may go down -/
  searchDepth : Nat := 980
  deriving DecidableEq, Repr

/-- The files and directories of a file system. -/
structure FileTree extends Standpoint where
  /-- what there is besides the directory that the program runs in and those above it, each place
  once -/
  entries : List (Place × FileEntry) := []
  deriving DecidableEq, Repr

/-- Why a path leads nowhere. -/
inductive PathFault where
  | missing
  /-- a component on the way is a file -/
  | throughFile
  /-- a directory on the way, or the file at its end, keeps the program out -/
  | denied
  /-- a name on the way, or the path as a whole, is too long -/
  | nameTooLong
  /-- the path holds a zero byte, which ends every path -/
  | zeroByte
  deriving DecidableEq, Repr

/-- The message about a path that leads nowhere. -/
def PathFault.message (path : Path) : PathFault → String
  | .missing => "[Errno 2] No such file or directory: " ++ Text.quoted path.text
  | .throughFile => "[Errno 20] Not a directory: " ++ Text.quoted path.text
  | .denied => "[Errno 13] Permission denied: " ++ Text.quoted path.text
  | .nameTooLong => "[Errno 36] File name too long: " ++ Text.quoted path.text
  | .zeroByte => "embedded null byte"

/-- Whether the fault says that nothing is there.  Otherwise it cannot even be found out. -/
def PathFault.isAbsence : PathFault → Bool
  | .missing | .throughFile | .zeroByte => true
  | .denied | .nameTooLong => false

/-- Why a file cannot be read. -/
inductive ReadFault where
  | path (fault : PathFault)
  | isDirectory
  | undecodable (fault : DecodeFault)
  deriving DecidableEq, Repr

/-- The message about a file that cannot be read. -/
def ReadFault.message (path : Path) : ReadFault → String
  | .path fault => fault.message path
  | .isDirectory => "[Errno 21] Is a directory: " ++ Text.quoted path.text
  | .undecodable fault => fault.message path

/-- The greatest number of bytes of a name. -/
def nameLimit : Nat := 255

/-- The number of bytes that the text of a path has to stay below. -/
def pathLimit : Nat := 4096

/-- Whether the text of a path is too long to be looked up. -/
def Path.isTooLong (p : Path) : Bool := pathLimit ≤ p.text.utf8ByteSize

/-- The absolute path of a place. -/
def Path.ofPlace (place : Place) : Path := ⟨.root, place⟩

namespace FileTree

/-- What is at a place; where the program runs, and above that, there are directories. -/
def entry? (t : FileTree) (place : Place) : Option FileEntry :=
  if place.isPrefixOf t.here then some .directory else t.entries.lookup place

/-- Whether a directory is at the place. -/
def isDirectoryAt (t : FileTree) (place : Place) : Bool := t.entry? place == some .directory

/-- The directory that the program runs in is always there, and so are those above it. -/
theorem isDirectoryAt_of_isPrefixOf {t : FileTree} {place : Place}
    (h : place.isPrefixOf t.here = true) : t.isDirectoryAt place = true := by
  unfold isDirectoryAt FileTree.entry?
  simp [h]

/-! ## Resolving paths -/

/-- Goes on from a place by components; above the top there is only the top. -/
def walk (t : FileTree) (place : Place) : List String → Except PathFault Place
  | [] => .ok place
  | part :: rest =>
    if !t.isDirectoryAt place then .error .throughFile
    else if t.unsearchable.contains place then .error .denied
    else if part = ".." then t.walk place.dropLast rest
    else if nameLimit < part.utf8ByteSize then .error .nameTooLong
    else match t.entry? (place ++ [part]) with
      | some _ => t.walk (place ++ [part]) rest
      | none => .error .missing

/-- The place that a path starts from. -/
def start (t : FileTree) (p : Path) : Place := if p.isAbsolute then [] else t.here

/-- The place that a path leads to. -/
def resolve (t : FileTree) (p : Path) : Except PathFault Place :=
  if p.hasZeroByte then .error .zeroByte
  else if p.isTooLong then .error .nameTooLong
  else t.walk (t.start p) p.parts

/-- What a path leads to, if to anything.  There is no answer if a directory on the way keeps the
program out, or if the path, or a name on the way, is too long. -/
def find? (t : FileTree) (p : Path) : Except PathFault (Option FileEntry) :=
  match t.resolve p with
  | .ok place => .ok (t.entry? place)
  | .error fault => if fault.isAbsence then .ok none else .error fault

/-! ## Reading -/

/-- What reading gives at a place where something is: the document in a file. -/
def readAt (t : FileTree) (place : Place) (e : FileEntry) : Except ReadFault Value :=
  if t.unreadable.contains place then .error (.path .denied)
  else match e with
    | .directory => .error .isDirectory
    | .file content => content.document.mapError .undecodable

/-- The document in the file that a path leads to. -/
def read (t : FileTree) (p : Path) : Except ReadFault Value :=
  match t.resolve p with
  | .error fault => .error (.path fault)
  | .ok place => match t.entry? place with
    | none => .error (.path .missing)
    | some e => t.readAt place e

/-- The entries of the log that a path leads to, if it leads anywhere. -/
def readLog (t : FileTree) (p : Path) : Except ReadFault (Option (List Value)) :=
  match t.find? p with
  | .error fault => .error (.path fault)
  | .ok none => .ok none
  | .ok (some .directory) => .error .isDirectory
  | .ok (some (.file content)) => (content.entries.map some).mapError .undecodable

/-- All places where something is: those above the place where the program runs, this one, and the
entries. -/
def places (t : FileTree) : List (Place × FileEntry) :=
  ((List.range (t.here.length + 1)).map fun n => (t.here.take n, .directory)) ++ t.entries

/-- All that is below a directory, by its place from that directory on. -/
def below (t : FileTree) (place : Place) : List (Place × FileEntry) :=
  t.places.filterMap fun (q, e) =>
    if place.isPrefixOf q && q.length > place.length then some (q.drop place.length, e) else none

end FileTree

/-- The directory that the program runs in, those above it, and nothing else. -/
example :
    let t : FileTree := { here := ["work", "quests"] }
    (t.find? (.ofText "..")).toOption = some (some .directory) ∧
    (t.find? (.ofText "/../../work")).toOption = some (some .directory) ∧
    (t.find? (.ofText "/quests")).toOption = some none := by
  decide +kernel

end QuestFlow

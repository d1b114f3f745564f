import QuestFlow.Files.Source
import QuestFlow.Log.Source
import QuestFlow.Quest.Basic
import QuestFlow.Repository.Report

/-!
# The quests of a directory

Every file below the quests directory whose name ends in `.yaml` or `.yml` holds one quest.  The
files are taken in the order of their paths, component by component.  A file that holds no quest
is a broken file and does not keep the others from loading; only one over which the reader breaks
down ends everything.

To find them, the search goes down from the directory and looks at everything that it finds,
whatever its name.

* A directory whose names may not be listed is passed over without a word, and all that is below it
  is not found.
* A path that cannot be looked up, because it is too long or a directory keeps the program out,
  makes the directory unusable.
* Directories that are nested too deep break the search down.
-/

namespace QuestFlow

/-- The endings of the names of quest files. -/
def questSuffixes : List String := [".yaml", ".yml"]

/-- Whether a place below the quests directory is that of a quest file. -/
def isQuestPlace (place : Place) : Bool :=
  questSuffixes.contains (Path.suffixOf (place.getLast?.getD ""))

/-- What loading the files of a directory gives. -/
structure LoadedQuests where
  quests : List Quest := []
  broken : List BrokenFile := []
  deriving DecidableEq, Repr

namespace FileTree

/-! ## The search -/

/-- Whether the search comes to a place below the directory: each directory on the way lists its
names. -/
def isSeen (t : FileTree) (place rest : Place) : Bool :=
  (List.range rest.length).all fun n => !t.unreadable.contains (place ++ rest.take n)

/-- What the search finds below a directory, by its place from that directory on. -/
def seenBelow (t : FileTree) (place : Place) : List (Place × FileEntry) :=
  (t.below place).filter fun (q, _) => t.isSeen place q

/-- A path that cannot be looked up, and why.  In which order a directory lists its names is left to
it; here the paths with the fewest components come first. -/
def unreachableBelow? (t : FileTree) (dir : Path) (place : Place) : Option (Path × PathFault) :=
  let before (p q : Path) : Bool :=
    p.parts.length < q.parts.length || (p.parts.length == q.parts.length && p.le q)
  (((t.seenBelow place).map fun (q, _) => dir.join ⟨.here, q⟩).mergeSort before).findSome? fun p =>
    match t.find? p with
    | .ok _ => none
    | .error fault => some (p, fault)

/-- Whether directories are nested too deep for the search. -/
def isTooDeep (t : FileTree) (place : Place) : Bool :=
  (t.seenBelow place).any fun (q, e) => e == .directory && t.searchDepth < q.length

/-- The quest files below a directory, in order. -/
def questPathsBelow (t : FileTree) (dir : Path) (place : Place) : List Path :=
  let files := (t.seenBelow place).filter fun (q, e) => e != .directory && isQuestPlace q
  (files.map fun (q, _) => dir.join ⟨.here, q⟩).mergeSort Path.le

/-- The quest files of a directory, in order. -/
def questPaths (t : FileTree) (dir : Path) : Except Failure (List Path) :=
  (t.directory .quests dir).bind fun place =>
    match t.unreachableBelow? dir place with
    | some (p, fault) => .error (.source ⟨.quests, dir, .unreachable p fault⟩)
    | none =>
      if t.isTooDeep place then .error (.breakdown (.tooDeep dir))
      else .ok (t.questPathsBelow dir place)

end FileTree

/-! ## Loading -/

/-- Why no quest is loaded from a file. -/
inductive LoadError where
  | broken (e : QuestError)
  | breakdown (b : Breakdown)
  deriving DecidableEq, Repr

/-- The quest in a file, by what reading the file gives. -/
def questIn (p : Path) : Except ReadFault Value → Except LoadError Quest
  | .ok document => (Quest.ofDocument document (some p)).mapError .broken
  | .error fault => match fault.breakdown? p with
    | some b => .error (.breakdown b)
    | none => .error (.broken (.unreadable (fault.message p)))

namespace FileTree

/-- The quest in the file at a path. -/
def loadQuest (t : FileTree) (p : Path) : Except LoadError Quest := questIn p (t.read p)

/-- The quests in the files that hold one. -/
def loadedAmong (t : FileTree) (paths : List Path) : List Quest :=
  paths.filterMap fun p => (t.loadQuest p).toOption

/-- The broken file at a path, if the file there holds no quest. -/
def brokenAt? (t : FileTree) (p : Path) : Option BrokenFile :=
  match t.loadQuest p with
  | .error (.broken e) => some ⟨p, e.reason⟩
  | .ok _ | .error (.breakdown _) => none

/-- The files that hold no quest. -/
def brokenAmong (t : FileTree) (paths : List Path) : List BrokenFile := paths.filterMap t.brokenAt?

/-- The breakdown over a file, if loading it breaks down. -/
def breakdownAt? (t : FileTree) (p : Path) : Option Breakdown :=
  match t.loadQuest p with
  | .error (.breakdown b) => some b
  | .ok _ | .error (.broken _) => none

/-- The event of a file that holds no quest. -/
def brokenEvent (b : BrokenFile) : Event :=
  Source.questFiles.event .info "quest_load_failed"
    [("path", .text b.path.text), ("reason", .text b.reason)]

/-- The events of loading the files of a directory. -/
def loadEvents (dir : Path) (loaded : LoadedQuests) : List Event :=
  loaded.broken.map brokenEvent ++
    [Source.questFiles.event .debug "quests_loaded"
      [("quests_dir", .text dir.text), ("loaded", .int loaded.quests.length),
        ("failed", .int loaded.broken.length)]]

/-- Loads every quest file below a directory, in order.  The first one over which the reader breaks
down ends it, and the files behind that are not looked at. -/
def loadQuests (t : FileTree) (dir : Path) : Logged (Except Failure LoadedQuests) :=
  match t.questPaths dir with
  | .error e => .quiet (.error e)
  | .ok paths => match paths.findSome? t.breakdownAt? with
    | some b =>
      let before := paths.takeWhile fun p => (t.breakdownAt? p).isNone
      ⟨.error (.breakdown b), (t.brokenAmong before).map brokenEvent⟩
    | none =>
      let loaded : LoadedQuests := ⟨t.loadedAmong paths, t.brokenAmong paths⟩
      ⟨.ok loaded, loadEvents dir loaded⟩

/-- The IDs of the quests below a directory, in load order. -/
def questIds (t : FileTree) (dir : Path) : Logged (Except Failure (List String)) :=
  let loaded := t.loadQuests dir
  ⟨loaded.value.map fun l => l.quests.map (·.id), loaded.events⟩

/-- The quest in the first file that holds one with this ID.  The files after it are not looked
at. -/
def findAmong (t : FileTree) (id : String) : List Path → Except Breakdown (Option Quest)
  | [] => .ok none
  | p :: paths => match t.loadQuest p with
    | .ok q => if q.id == id then .ok (some q) else t.findAmong id paths
    | .error (.broken _) => t.findAmong id paths
    | .error (.breakdown b) => .error b

/-- The first quest of a directory with this ID.  Nothing is logged about the files before it. -/
def findQuest (t : FileTree) (dir : Path) (id : String) : Except Failure (Option Quest) :=
  (t.questPaths dir).bind fun paths => (t.findAmong id paths).mapError .breakdown

end FileTree
end QuestFlow

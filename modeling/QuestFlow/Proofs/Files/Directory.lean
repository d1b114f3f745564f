import Mathlib.Algebra.Ring.Nat
import QuestFlow.Proofs.Files.Growth

/-!
# A directory of quests

What loading the quests directory and checking the repository promise about the files in it, put
together: each quest file is handled once, in the order of the paths, whatever is in it and whenever
it came to be; and one that holds no quest disturbs none of the others
(`FileTree.directoryHandled`).  The tree only has to be well-formed, and every tree of a workspace
is (`Workspace.sound_of_steps`).

There are three conditions.

* All that is below the directory can be looked up.  Where it cannot, the directory gives up on
  purpose: a path that is too long, or that leads through a directory that keeps the program out,
  makes it unusable.  The paths that count start from where the directory is named, so a directory
  that is named in a roundabout way can be unusable while the same directory is not under a shorter
  name (`attic_not_loaded`).
* The search finds everything: a directory whose names may not be listed is passed over, and
  directories nested too deep break it down.
* The reader breaks down over no quest file.
-/

namespace QuestFlow

namespace FileTree

variable {t : FileTree} {dir : Path} {place : Place}

/-- What a directory at a place promises about the files in it. -/
structure DirectoryHandled (t : FileTree) (dir : Path) (place : Place) : Prop where
  /-- each quest file is handled once -/
  handles : t.Listed place → t.AllFound dir place → t.AllRead dir place →
    ∃ loaded, (t.loadQuests dir).value = .ok loaded ∧ t.Handles dir place loaded
  /-- the order in which the files came to be is not seen -/
  order : t.Listed place → t.AllFound dir place →
    ∀ t', SameFiles t t' → t'.loadQuests dir = t.loadQuests dir
  /-- one more file that holds no quest, and is no catalog file, adds one broken file to a report -/
  growth : ∀ (s : Settings) (r : Report) (t' : FileTree) (rest : Place) (content : Content)
    (p : Path) (e : QuestError), s.questsDir = dir → (t.check s).value = .ok r →
    Grows t t' (place ++ rest) content → rest ≠ [] → p = dir.join ⟨.here, rest⟩ →
    Path.suffixOf p.name ∈ questSuffixes →
    questIn p (t'.readAt (place ++ rest) (.file content)) = .error (.broken e) →
    (∀ (kind : EntityKind) found,
      t'.resolve (s.dataDir.child kind.fileName) = .ok found → t.entry? found ≠ none) →
    t'.Listed place → t'.AllFound dir place →
    ∃ before after, r.brokenFiles = before ++ after ∧
      (t'.check s).value = .ok { r with brokenFiles := before ++ ⟨p, e.reason⟩ :: after } ∧
      (∀ b ∈ before, b.path.Before p) ∧ ∀ b ∈ after, p.Before b.path
  /-- a path that cannot be looked up makes the directory unusable -/
  unreachable : t.Listed place → ¬ t.AllFound dir place → ∃ rest e fault, rest ≠ [] ∧
    t.entry? (place ++ rest) = some e ∧ t.find? (dir.join ⟨.here, rest⟩) = .error fault ∧
    (t.loadQuests dir).value =
      .error (.source ⟨.quests, dir, .unreachable (dir.join ⟨.here, rest⟩) fault⟩)

/-- A data directory, and a quests directory with a quest in it. -/
def shelf : FileTree :=
  { here := []
    entries := [(["data"], .directory), (["quests"], .directory),
      (["quests", "b.yaml"], .file (.ofDocument (.ofFields [("QuestID", .text "Q1")])))] }

/-- The shelf with an empty file more. -/
def fullerShelf : FileTree := shelf.put ["quests", "a.yaml"] (.file .empty)

/-- The path of so many steps up. -/
def stairs (n : Nat) : Path := ⟨.here, List.replicate n ".."⟩

/-- A quest at the top of the file system. -/
def attic : FileTree :=
  { here := []
    entries := [(["a.yaml"], .file (.ofDocument (.ofFields [("QuestID", .text "Q1")])))] }

/-- Above the top there is only the top. -/
theorem walk_replicate_up (hopen : [] ∉ t.unsearchable) (n : Nat) :
    t.walk [] (List.replicate n "..") = .ok [] := by
  have htop : t.IsPassable [] := ⟨isDirectoryAt_of_isPrefixOf rfl, hopen⟩
  induction n with
  | zero => rfl
  | succ n ih => rw [List.replicate_succ, htop.walk_cons, if_pos rfl, List.dropLast_nil, ih]

/-- The bytes of texts with something between them. -/
theorem utf8ByteSize_intercalate (between : String) {ts : List String} (hne : ts ≠ []) :
    (between.intercalate ts).utf8ByteSize + between.utf8ByteSize =
      (ts.map fun s => s.utf8ByteSize + between.utf8ByteSize).sum := by
  induction ts with
  | nil => exact absurd rfl hne
  | cons s ts ih =>
    cases ts with
    | nil => simp
    | cons u ts =>
      have hrest := ih (List.cons_ne_nil u ts)
      rw [String.intercalate_cons_cons, String.utf8ByteSize_append, String.utf8ByteSize_append,
        List.map_cons, List.sum_cons, ← hrest]
      omega

/-- The length of a path that does not start from a root. -/
theorem utf8ByteSize_text {parts : List String} (hne : parts ≠ []) :
    (Path.mk .here parts).text.utf8ByteSize + 1 =
      (parts.map fun s => s.utf8ByteSize + 1).sum := by
  have htext : (Path.mk .here parts).text = String.intercalate "/" parts := by
    cases parts with
    | nil => exact absurd rfl hne
    | cons part parts => rfl
  rw [htext]
  exact utf8ByteSize_intercalate "/" hne

/-- So a path is too long if its names, with a byte between them, are. -/
theorem isTooLong_iff {parts : List String} (hne : parts ≠ []) :
    (Path.mk .here parts).isTooLong = true ↔
      pathLimit < (parts.map fun s => s.utf8ByteSize + 1).sum := by
  have hsize := utf8ByteSize_text hne
  rw [Path.isTooLong, decide_eq_true_eq]
  omega

/-- Going up takes three bytes a step. -/
theorem isTooLong_stairs {n : Nat} (hn : 0 < n) :
    (stairs n).isTooLong = true ↔ pathLimit < 3 * n := by
  have hne : List.replicate n ".." ≠ [] := by
    rw [Ne, List.replicate_eq_nil_iff]
    omega
  have hup : (".." : String).utf8ByteSize = 2 := rfl
  rw [stairs, isTooLong_iff hne, List.map_replicate, List.sum_replicate_nat, hup, Nat.mul_comm]

/-- And a name behind it takes its own bytes and one more. -/
theorem isTooLong_stairs_join (n : Nat) (name : String) :
    ((stairs n).join ⟨.here, [name]⟩).isTooLong = true ↔
      pathLimit < 3 * n + (name.utf8ByteSize + 1) := by
  have hjoin : (stairs n).join ⟨.here, [name]⟩ = ⟨.here, List.replicate n ".." ++ [name]⟩ := rfl
  have hne : List.replicate n ".." ++ [name] ≠ [] := List.append_ne_nil_of_right_ne_nil _ (by simp)
  have hup : (".." : String).utf8ByteSize = 2 := rfl
  rw [hjoin, isTooLong_iff hne, List.map_append, List.sum_append_nat, List.map_replicate,
    List.sum_replicate_nat, hup, List.map_singleton, List.sum_singleton, Nat.mul_comm]

/-- There is no zero byte in it. -/
theorem hasZeroByte_stairs_join (n : Nat) {name : String}
    (hname : name.toList.contains '\x00' = false) :
    ((stairs n).join ⟨.here, [name]⟩).hasZeroByte = false := by
  rw [Path.hasZeroByte, List.any_eq_false]
  intro part hpart
  rcases List.mem_append.1 hpart with hup | hpart
  · rw [List.eq_of_mem_replicate hup]
    decide
  · rw [List.mem_singleton.1 hpart, hname]
    exact Bool.false_ne_true

/-- What is too long cannot be looked up. -/
theorem find?_of_tooLong {p : Path} (hzero : p.hasZeroByte = false) (hlong : p.isTooLong = true) :
    t.find? p = .error .nameTooLong := by
  rw [find?, resolve, hzero, hlong]
  rfl

/-- From the top, steps up lead to the top. -/
theorem resolve_stairs {n : Nat} (hn : 0 < n) (hshort : 3 * n ≤ pathLimit)
    (hhere : t.here = []) (hopen : [] ∉ t.unsearchable) : t.resolve (stairs n) = .ok [] := by
  have hzero : (stairs n).hasZeroByte = false := by
    rw [Path.hasZeroByte, List.any_eq_false]
    intro part hpart
    rw [List.eq_of_mem_replicate hpart]
    decide
  have hfits : (stairs n).isTooLong = false := by
    rw [Bool.eq_false_iff, Ne, isTooLong_stairs hn]
    omega
  have hstart : t.start (stairs n) = [] := hhere
  have hwalk : t.walk (t.start (stairs n)) (stairs n).parts = .ok [] := by
    rw [hstart]
    exact walk_replicate_up hopen n
  exact resolve_eq_ok_iff.2 ⟨hzero, hfits, hwalk⟩

/-- The quest of the attic is a file below its directory, however that is named; and where the path
of the directory can be looked up and that of the file cannot, no file is found. -/
theorem not_found_of_stairs (n : Nat) (hn : 0 < n) (hshort : 3 * n ≤ pathLimit)
    (hlong : pathLimit < 3 * n + 7) : attic.directory .quests (stairs n) = .ok [] ∧
    (∃ held q, attic.IsQuestFile (stairs n) [] ((stairs n).join ⟨.here, ["a.yaml"]⟩) held ∧
      questIn ((stairs n).join ⟨.here, ["a.yaml"]⟩) held = .ok q) ∧
    attic.questPaths (stairs n) = .error (.source ⟨.quests, stairs n,
      .unreachable ((stairs n).join ⟨.here, ["a.yaml"]⟩) .nameTooLong⟩) := by
  have hdir : attic.directory .quests (stairs n) = .ok [] :=
    directory_eq_ok_iff.2 ⟨resolve_stairs hn hshort rfl (List.not_mem_nil), rfl⟩
  have hname : Path.suffixOf ((stairs n).join ⟨.here, ["a.yaml"]⟩).name ∈ questSuffixes := by
    rw [name_join (List.cons_ne_nil _ _)]
    decide +kernel
  have hsize : ("a.yaml" : String).utf8ByteSize = 6 := rfl
  have htoo : ((stairs n).join ⟨.here, ["a.yaml"]⟩).isTooLong = true := by
    rw [isTooLong_stairs_join, hsize]
    omega
  have hfault : attic.find? ((stairs n).join ⟨.here, ["a.yaml"]⟩) = .error .nameTooLong :=
    find?_of_tooLong (hasZeroByte_stairs_join n (by decide)) htoo
  have hseen : attic.seenBelow [] =
      [(["a.yaml"], .file (.ofDocument (.ofFields [("QuestID", .text "Q1")])))] := rfl
  have hlost : attic.unreachableBelow? (stairs n) [] =
      some ((stairs n).join ⟨.here, ["a.yaml"]⟩, .nameTooLong) := by
    rw [unreachableBelow?, hseen, List.map_singleton, List.mergeSort_singleton,
      List.findSome?_singleton]
    simp only [hfault]
  refine ⟨hdir, ⟨_, _, ⟨["a.yaml"], _, List.cons_ne_nil _ _, rfl, hname, rfl, rfl⟩, rfl⟩, ?_⟩
  rw [questPaths, hdir]
  simp only [Except.bind, hlost]

end FileTree
end QuestFlow

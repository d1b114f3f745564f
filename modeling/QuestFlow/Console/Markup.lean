import QuestFlow.Console.Shortcode

/-!
# Messages beside markup

A message that is printed next to coloured words passes through a reader of markup, in which a
small letter or one of `#`, `/` and `@` behind an opening bracket begins a tag.  Tags in the
message are protected, so it comes out as it is, but the reader sees it in pieces: the tags, the
backslashes before each of them, and what stands between.  Two things show.  A backslash before a
bracket that begins no tag is dropped, and a single backslash at the very end is
doubled.  Shortcodes are looked for in each piece by itself.
-/

namespace QuestFlow.Console

/-- Whether a character behind an opening bracket begins a tag. -/
def beginsTag (c : Char) : Bool :=
  ('a' ≤ c && c ≤ 'z') || c == '#' || c == '/' || c == '@'

/-- Splits behind the first closing bracket, unless an opening one comes first. -/
def tagEnd? : List Char → Option (List Char × List Char)
  | [] => none
  | c :: cs =>
    if c = ']' then some ([c], cs)
    else if c = '[' then none
    else (tagEnd? cs).map fun (tag, rest) => (c :: tag, rest)

/-- The tag at the start of a text, and what follows it. -/
def tagAt? : List Char → Option (List Char × List Char)
  | '[' :: c :: cs =>
    if beginsTag c then (tagEnd? cs).map fun (tag, rest) => ('[' :: c :: tag, rest) else none
  | _ => none

theorem length_of_tagEnd? {cs tag rest : List Char} (h : tagEnd? cs = some (tag, rest)) :
    rest.length < cs.length := by
  induction cs generalizing tag with
  | nil => simp [tagEnd?] at h
  | cons c cs ih =>
    unfold tagEnd? at h
    split at h
    · simp only [Option.some.injEq, Prod.mk.injEq] at h
      simp [← h.2]
    · split at h
      · simp at h
      · obtain ⟨⟨t, r⟩, hr, heq⟩ := Option.map_eq_some_iff.1 h
        simp only [Prod.mk.injEq] at heq
        rw [heq.2] at hr
        have := ih hr
        simp only [List.length_cons]
        omega

theorem length_of_tagAt? {cs tag rest : List Char} (h : tagAt? cs = some (tag, rest)) :
    rest.length < cs.length := by
  unfold tagAt? at h
  split at h
  · split at h
    · obtain ⟨⟨t, r⟩, hr, heq⟩ := Option.map_eq_some_iff.1 h
      simp only [Prod.mk.injEq] at heq
      have := length_of_tagEnd? hr
      rw [heq.2] at this
      simp only [List.length_cons]
      omega
    · simp at h
  · simp at h

/-- The pieces of a message.  `plain` holds what has been read of the piece under way, and `slashes`
counts the backslashes read last, which belong to a tag if one follows. -/
def pieces (plain : List Char) (slashes : Nat) (cs : List Char) : List (List Char) :=
  match _h : tagAt? cs with
  | some (tag, rest) =>
    plain.reverse :: List.replicate slashes '\\' :: tag :: pieces [] 0 rest
  | none => match cs with
    | [] => [List.replicate slashes '\\' ++ plain |>.reverse]
    | c :: rest =>
      if c = '\\' then pieces plain (slashes + 1) rest
      else pieces (c :: (List.replicate slashes '\\' ++ plain)) 0 rest
termination_by cs.length
decreasing_by
  · exact length_of_tagAt? _h
  · simp
  · simp

/-- Drops each backslash that stands before an opening bracket. -/
def dropSlashes : List Char → List Char
  | '\\' :: '[' :: cs => '[' :: dropSlashes cs
  | c :: cs => c :: dropSlashes cs
  | [] => []

/-- Doubles a single backslash at the end. -/
def doubleLast (cs : List Char) : List Char :=
  match cs.reverse with
  | '\\' :: '\\' :: _ => cs
  | '\\' :: _ => cs ++ ['\\']
  | _ => cs

/-- A message as it comes out beside markup, with what stands directly before it. -/
def besideMarkup (before message : List Char) : List Char :=
  (pieces [] 0 (before ++ doubleLast message)).flatMap fun piece =>
    expandShortcodes (dropSlashes piece)

example : besideMarkup [' '] "[Errno 2] a\\[B [x] y\\".toList =
    " [Errno 2] a[B [x] y\\\\".toList := by decide +kernel

end QuestFlow.Console

import QuestFlow.Path

/-!
# The arguments of the command line

A command line is a run of general options, the name of a command, and what the command is
given.  Options follow the usual rules: a long option may carry its value behind `=`, short ones
may be written in one word, an option that takes a value takes the next word whatever it looks
like, and `--` ends the options.  Behind the name of a command, options and other words may stand
in any order.

The general options are read before the name of the command is looked up, and its own arguments
only after logging has been configured; so they are two readers here, `General.read?` and
`Command.read?`.
-/

namespace QuestFlow

/-! ## Options -/

/-- An option of a reader that gathers an `α`. -/
structure OptionSpec (α : Type) where
  /-- the words for the option, dashes included -/
  words : List String
  /-- what the option does: without a value, or with one -/
  effect : (α → α) ⊕ (String → α → α)

/-- How a reader of arguments gathers an `α`. -/
structure ArgumentSpec (α : Type) where
  options : List (OptionSpec α)
  /-- takes a word that is no option; none if there is no place for it -/
  word : String → α → Option α
  /-- whether the first word that is no option ends the options -/
  stopsAtWord : Bool

namespace ArgumentSpec

variable {α : Type}

/-- The option that a word means. -/
def option? (spec : ArgumentSpec α) (word : String) : Option (OptionSpec α) :=
  spec.options.find? (·.words.contains word)

/-- Splits at the first `=`, if there is one. -/
def splitValue (arg : String) : String × Option String :=
  let cs := arg.toList
  let name := cs.takeWhile (· != '=')
  match cs.dropWhile (· != '=') with
  | [] => (arg, none)
  | _ :: value => (String.ofList name, some (String.ofList value))

/-- Whether an argument looks like an option. -/
def looksLikeOption (arg : String) : Bool := arg.startsWith "-" && arg.length > 1

/-- The short options in one word, from the given letter on.  The value of the last one is the rest
of the word, or the next argument.  Returns whether the next argument was taken. -/
def shortOptions (spec : ArgumentSpec α) (next : Option String) :
    List Char → α → Option (α × Bool)
  | [], a => some (a, false)
  | c :: cs, a =>
    match spec.option? (String.ofList ['-', c]) with
    | none => none
    | some o => match o.effect with
      | .inl set => shortOptions spec next cs (set a)
      | .inr set =>
        if cs.isEmpty then next.map fun value => (set value a, true)
        else some (set (String.ofList cs) a, false)

/-- One option with its value.  Only a long option can carry its value behind `=`.  Returns whether
the next argument was taken; none if there is no such option, or it lacks its value or has one
that it cannot take. -/
def readOption (spec : ArgumentSpec α) (arg : String) (next : Option String) (a : α) :
    Option (α × Bool) :=
  if arg.startsWith "--" then
    let (name, value?) := splitValue arg
    (spec.option? name).bind fun o => match o.effect, value? with
      | .inl set, none => some (set a, false)
      | .inl _, some _ => none
      | .inr set, some value => some (set value a, false)
      | .inr set, none => next.map fun value => (set value a, true)
  else shortOptions spec next (arg.toList.drop 1) a

/-- Takes words that are no options. -/
def takeWords (spec : ArgumentSpec α) (a : α) : List String → Option α
  | [] => some a
  | arg :: args => (spec.word arg a).bind fun a => takeWords spec a args

/-- Reads arguments.  Returns what was gathered, and the arguments left if the first word ended the
options; none if they are not in order.  `skip` says that the first argument is the value of the
option before it. -/
def read? (spec : ArgumentSpec α) (skip : Bool) (a : α) : List String → Option (α × List String)
  | [] => some (a, [])
  | arg :: args =>
    if skip then spec.read? false a args
    else if arg = "--" then
      if spec.stopsAtWord then some (a, args)
      else (spec.takeWords a args).map fun a => (a, [])
    else if looksLikeOption arg then
      match spec.readOption arg args.head? a with
      | some (a, taken) => spec.read? taken a args
      | none => none
    else if spec.stopsAtWord then some (a, arg :: args)
    else match spec.word arg a with
      | some a => spec.read? false a args
      | none => none

end ArgumentSpec

/-! ## General options -/

/-- What the general options say. -/
structure General where
  verbosity : Nat := 0
  logToFile : Bool := false
  /-- the name of the command and its arguments -/
  rest : List String := []
  deriving DecidableEq, Repr

namespace General

/-- The general options. -/
def spec : ArgumentSpec General where
  options :=
    [⟨["-v", "--verbose"], .inl fun g => { g with verbosity := g.verbosity + 1 }⟩,
      ⟨["--log"], .inl fun g => { g with logToFile := true }⟩]
  word _ _ := none
  stopsAtWord := true

/-- Reads the general options. -/
def read? (args : List String) : Option General :=
  (spec.read? false {} args).map fun (g, rest) => { g with rest }

end General

/-! ## Commands -/

/-- What the command `check` is given. -/
structure CheckArguments where
  quests : Option Path := none
  data : Option Path := none
  settings : Option Path := none
  quiet : Bool := false
  noJournal : Bool := false
  deriving DecidableEq, Repr

/-- What the command `validate` is given. -/
structure ValidateArguments where
  file : Option Path := none
  data : Option Path := none
  settings : Option Path := none
  deriving DecidableEq, Repr

/-- The commands. -/
inductive Command where
  | check (arguments : CheckArguments)
  | validate (file : Path) (data settings : Option Path)
  | version
  deriving DecidableEq, Repr

namespace Command

/-- The options of `check`. -/
def checkSpec : ArgumentSpec CheckArguments where
  options :=
    [⟨["--quests"], .inr fun s a => { a with quests := some (.ofText s) }⟩,
      ⟨["--data"], .inr fun s a => { a with data := some (.ofText s) }⟩,
      ⟨["--config", "-c"], .inr fun s a => { a with settings := some (.ofText s) }⟩,
      ⟨["--quiet", "-q"], .inl fun a => { a with quiet := true }⟩,
      ⟨["--no-journal-checks"], .inl fun a => { a with noJournal := true }⟩]
  word _ _ := none
  stopsAtWord := false

/-- The options of `validate`, and the file. -/
def validateSpec : ArgumentSpec ValidateArguments where
  options :=
    [⟨["--data"], .inr fun s a => { a with data := some (.ofText s) }⟩,
      ⟨["--config", "-c"], .inr fun s a => { a with settings := some (.ofText s) }⟩]
  word s a := if a.file.isNone then some { a with file := some (.ofText s) } else none
  stopsAtWord := false

/-- The names of the commands. -/
def names : List String := ["check", "validate", "version"]

/-- Reads the arguments of the command with the given name. -/
def read? (name : String) (args : List String) : Option Command :=
  if name = "check" then
    (checkSpec.read? false {} args).map fun (a, _) => .check a
  else if name = "validate" then
    (validateSpec.read? false {} args).bind fun (a, _) =>
      a.file.map fun file => .validate file a.data a.settings
  else if name = "version" then
    if args = [] ∨ args = ["--"] then some .version else none
  else none

/-- The paths that a command is given. -/
def paths : Command → List Path
  | .check a => a.quests.toList ++ a.data.toList ++ a.settings.toList
  | .validate file data settings => file :: (data.toList ++ settings.toList)
  | .version => []

end Command

example : (General.read? ["-vv", "--log", "check", "-q"]).map (·.verbosity) = some 2 := by
  decide +kernel
example : Command.read? "check" ["-qc", "x"] =
    some (.check { settings := some ⟨.here, ["x"]⟩, quiet := true }) := by decide +kernel
example : Command.read? "check" ["-c=x", "--data=y=z"] =
    some (.check { settings := some ⟨.here, ["=x"]⟩, data := some ⟨.here, ["y=z"]⟩ }) := by
  decide +kernel
example : Command.read? "check" ["extra"] = none ∧ Command.read? "validate" [] = none := by
  decide +kernel

end QuestFlow

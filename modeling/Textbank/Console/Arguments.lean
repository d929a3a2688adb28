/-!
# Command-line arguments

The arguments of a run are read from left to right against a `Grammar`: which options may be
given, how many words are expected, and whether further words follow.  Options may stand before,
between and after the words; after `--` every argument is a word, and once the further words have
begun everything is one of them, whatever it starts with.  An option is given once at most.

The first word that is not an option names a subcommand (`Subcommand`), whose own arguments
follow; `Invocation.ofArguments` reads a whole command line.
-/

namespace Textbank.Console

/-! ### Options -/

/-- What can be given as an option. -/
inductive Flag where
  | root
  | verbose
  | filter
  | register
  | stdout
deriving DecidableEq, Repr

namespace Flag

/-- The name after two hyphens. -/
def long : Flag → String
  | root => "root"
  | verbose => "verbose"
  | filter => "filter"
  | register => "reg"
  | stdout => "stdout"

/-- The letter after one hyphen. -/
def short? : Flag → Option Char
  | verbose => some 'v'
  | filter => some 'f'
  | register => some 'r'
  | root | stdout => none

/-- Whether a value belongs to the option. -/
def takesValue : Flag → Bool
  | root | filter | register => true
  | verbose | stdout => false

/-- Whether a value can be given to the option; a directory needs a name. -/
def accepts (f : Flag) (value : String) : Bool := f ≠ root || value ≠ ""

end Flag

/-- What a place on the command line expects. -/
structure Grammar where
  /-- The options of the place. -/
  flags : List Flag
  /-- The number of words. -/
  words : Nat
  /-- Whether one or more further words follow. -/
  trailing : Bool
  /-- Whether the version can be asked for. -/
  hasVersion : Bool := false

/-- Why reading arguments ends early. -/
inductive Stop where
  /-- The arguments do not meet the grammar. -/
  | usage
  /-- Help is asked for. -/
  | help
  /-- The version is asked for. -/
  | version
deriving DecidableEq, Repr

/-- What was read so far. -/
structure Given where
  /-- The options with their values, a flag with an empty one. -/
  flags : List (Flag × String) := []
  /-- The words. -/
  words : List String := []
  /-- The further words. -/
  trailing : List String := []
deriving DecidableEq, Repr

namespace Given

/-- Whether an option was given. -/
def has (g : Given) (f : Flag) : Bool := (g.flags.lookup f).isSome

/-- The value of an option. -/
def value? (g : Given) (f : Flag) : Option String := g.flags.lookup f

/-- Take an option with its value. -/
def addFlag (g : Given) (f : Flag) (value : String) : Except Stop Given :=
  if g.has f || !f.accepts value then .error .usage
  else .ok { g with flags := (f, value) :: g.flags }

end Given

/-- How an argument can be meant. -/
inductive Argument where
  /-- Two hyphens alone. -/
  | endOfOptions
  /-- Two hyphens, a name and perhaps a value after an equals sign. -/
  | long (name : List Char) (value : Option (List Char))
  /-- One hyphen and letters. -/
  | short (letters : List Char)
  | word
deriving DecidableEq, Repr

/-- A name and what follows the first equals sign. -/
def splitEquals (s : List Char) : List Char × Option (List Char) :=
  match s.dropWhile (· ≠ '=') with
  | [] => (s, none)
  | _ :: value => (s.takeWhile (· ≠ '='), some value)

/-- How an argument is meant. -/
def Argument.of (arg : String) : Argument :=
  match arg.toList with
  | ['-', '-'] => .endOfOptions
  | '-' :: '-' :: s => .long (splitEquals s).1 (splitEquals s).2
  | '-' :: c :: s => .short (c :: s)
  | _ => .word

namespace Grammar

/-- The option of a name. -/
def longFlag? (g : Grammar) (name : List Char) : Option Flag :=
  g.flags.find? fun f => f.long.toList = name

/-- The option of a letter. -/
def shortFlag? (g : Grammar) (letter : Char) : Option Flag :=
  g.flags.find? fun f => f.short? = some letter

/-- Read letters after one hyphen.  The first option with a value takes what is left of them, or
else waits for the next argument. -/
def readLetters (g : Grammar) (given : Given) : List Char → Except Stop (Given × Option Flag)
  | [] => .ok (given, none)
  | c :: cs =>
    match g.shortFlag? c with
    | none =>
      if c = 'h' then .error .help
      else if g.hasVersion && c = 'V' then .error .version
      else .error .usage
    | some f =>
      if f.takesValue then
        match cs with
        | [] => .ok (given, some f)
        | '=' :: value => (given.addFlag f (.ofList value)).map (·, none)
        | value => (given.addFlag f (.ofList value)).map (·, none)
      else
        match given.addFlag f "" with
        | .error stop => .error stop
        | .ok given => g.readLetters given cs

/-- Read a name after two hyphens, with or without a value. -/
def readLong (g : Grammar) (given : Given) (name : List Char) (value : Option (List Char)) :
    Except Stop (Given × Option Flag) :=
  match g.longFlag? name, value with
  | none, none =>
    if name = ['h', 'e', 'l', 'p'] then .error .help
    else if g.hasVersion && name = ['v', 'e', 'r', 's', 'i', 'o', 'n'] then .error .version
    else .error .usage
  | none, some _ => .error .usage
  | some f, some value =>
    if f.takesValue then (given.addFlag f (.ofList value)).map (·, none) else .error .usage
  | some f, none =>
    if f.takesValue then .ok (given, some f) else (given.addFlag f "").map (·, none)

/-- Whether all words were given. -/
def complete (g : Grammar) (given : Given) : Bool :=
  given.words.length = g.words && (!g.trailing || given.trailing ≠ [])

/-- Take the arguments that are left as words. -/
def readWords (g : Grammar) (given : Given) : List String → Except Stop Given
  | [] => if g.complete given then .ok given else .error .usage
  | arg :: args =>
    if given.words.length < g.words then
      g.readWords { given with words := given.words ++ [arg] } args
    else if g.trailing then .ok { given with trailing := arg :: args }
    else .error .usage

/-- Read arguments; an option that waits for its value takes the next one, which must not look
like an option itself. -/
def read (g : Grammar) (given : Given) (waiting : Option Flag) :
    List String → Except Stop Given
  | [] => if waiting.isNone && g.complete given then .ok given else .error .usage
  | arg :: args =>
    match waiting, Argument.of arg with
    | some f, .word =>
      match given.addFlag f arg with
      | .error stop => .error stop
      | .ok given => g.read given none args
    -- a value that starts with a hyphen has to be written after an equals sign
    | some _, _ => .error .usage
    | none, .endOfOptions => g.readWords given args
    | none, .long name value =>
      match g.readLong given name value with
      | .error stop => .error stop
      | .ok (given, waiting) => g.read given waiting args
    | none, .short letters =>
      match g.readLetters given letters with
      | .error stop => .error stop
      | .ok (given, waiting) => g.read given waiting args
    | none, .word =>
      if given.words.length < g.words then
        g.read { given with words := given.words ++ [arg] } none args
      else if g.trailing then .ok { given with trailing := arg :: args }
      else .error .usage

end Grammar

/-! ### Subcommands -/

/-- What a run is asked to do. -/
inductive Subcommand where
  | openBank (bank : String)
  | preload
  | list
  | showBank (bank : String) (filter : Option String)
  | set (bank : String) (register : Option String) (address : String) (words : List String)
  | delete (bank : String) (register : Option String) (address : String)
  | resolve (bank : String) (inline : Bool)
  | exportBank (bank : String) (inline : Bool)
  | get (words : List String)
  | config
deriving DecidableEq, Repr

/-- The options that can be given anywhere. -/
def globalFlags : List Flag := [.root, .verbose]

/-- The grammar before the subcommand: no words but options. -/
def topGrammar : Grammar :=
  { flags := globalFlags, words := 0, trailing := false, hasVersion := true }

/-- A subcommand by its name: what it expects, and what it means then. -/
structure Verb where
  names : List String
  flags : List Flag := []
  words : Nat := 0
  trailing : Bool := false
  /-- The subcommand of complete arguments. -/
  meaning : Given → Option Subcommand

/-- The subcommands. -/
def verbs : List Verb :=
  [{ names := ["open", "o"], words := 1
     meaning := fun
      | ⟨_, [bank], _⟩ => some (.openBank bank)
      | _ => none },
   { names := ["preload"], meaning := fun _ => some .preload },
   { names := ["list", "ls"], meaning := fun _ => some .list },
   { names := ["show", "v"], flags := [.filter], words := 1
     meaning := fun
      | g@⟨_, [bank], _⟩ => some (.showBank bank (g.value? .filter))
      | _ => none },
   { names := ["set"], flags := [.register], words := 2, trailing := true
     meaning := fun
      | g@⟨_, [bank, address], words⟩ => some (.set bank (g.value? .register) address words)
      | _ => none },
   { names := ["delete", "rm"], flags := [.register], words := 2
     meaning := fun
      | g@⟨_, [bank, address], _⟩ => some (.delete bank (g.value? .register) address)
      | _ => none },
   { names := ["resolve", "r"], flags := [.stdout], words := 1
     meaning := fun
      | g@⟨_, [bank], _⟩ => some (.resolve bank (g.has .stdout))
      | _ => none },
   { names := ["export"], flags := [.stdout], words := 1
     meaning := fun
      | g@⟨_, [bank], _⟩ => some (.exportBank bank (g.has .stdout))
      | _ => none },
   { names := ["get"], trailing := true, meaning := fun g => some (.get g.trailing) },
   { names := ["config"], meaning := fun _ => some .config }]

/-- The subcommand of a name. -/
def verb? (name : String) : Option Verb := verbs.find? (·.names.contains name)

/-- What a subcommand expects. -/
def Verb.grammar (v : Verb) : Grammar :=
  { flags := v.flags ++ globalFlags, words := v.words, trailing := v.trailing }

/-! ### Command lines -/

/-- A command line: the directory, and what to do. -/
structure Invocation where
  root : Option String
  verbose : Bool
  subcommand : Subcommand
deriving DecidableEq, Repr

/-- The arguments before the subcommand and those from it on. -/
def splitAtSubcommand (given : Given) (waiting : Option Flag) :
    List String → Except Stop (Given × List String)
  | [] => (topGrammar.read given waiting []).map (·, [])
  | arg :: args =>
    match waiting, Argument.of arg with
    | some f, .word =>
      match given.addFlag f arg with
      | .error stop => .error stop
      | .ok given => splitAtSubcommand given none args
    | some _, _ => .error .usage
    | none, .word => .ok (given, arg :: args)
    | none, .endOfOptions => (topGrammar.readWords given args).map (·, [])
    | none, .long name value =>
      match topGrammar.readLong given name value with
      | .error stop => .error stop
      | .ok (given, waiting) => splitAtSubcommand given waiting args
    | none, .short letters =>
      match topGrammar.readLetters given letters with
      | .error stop => .error stop
      | .ok (given, waiting) => splitAtSubcommand given waiting args

/-- Whether help can be asked for by these arguments after the word for it. -/
def isHelpTopic : List String → Bool
  | [] => true
  | [name] => name = "help" || (verb? name).isSome
  | _ => false

/-- The command line of a list of arguments.  Without a subcommand the banks are listed, and of
two directories the one given after the subcommand counts. -/
def Invocation.ofArguments (args : List String) : Except Stop Invocation := do
  let (top, rest) ← splitAtSubcommand {} none args
  match rest with
  | [] => return ⟨top.value? .root, top.has .verbose, .list⟩
  | name :: args =>
    match verb? name with
    | none => throw (if name = "help" && isHelpTopic args then .help else .usage)
    | some v =>
      -- the options before the name are counted apart from those after it
      let given ← v.grammar.read {} none args
      match v.meaning given with
      | none => throw .usage
      | some subcommand =>
        return ⟨(given.value? .root).or (top.value? .root),
          given.has .verbose || top.has .verbose, subcommand⟩

end Textbank.Console

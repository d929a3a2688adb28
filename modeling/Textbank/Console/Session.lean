import Textbank.Console.Arguments
import Textbank.Console.Layout
import Textbank.Request
import Textbank.Storage.Named
/-!
# Console sessions

One run of the program: the arguments are read, the directory is opened with its configuration,
the requests of the subcommand are carried out one after the other, and their reports are printed.
Every run starts with nothing loaded, so a subcommand that changes a bank saves it as well.
`execute` says what a run prints, how it exits, and what the directory holds afterwards.
-/

namespace Textbank.Console

/-! ### Printing -/

/-- Which part of a report is printed. -/
inductive View where
  | nothing
  /-- The banks and the messages. -/
  | banks
  /-- The banks, the rows and the messages. -/
  | rows
  | messages
  /-- The document itself, or the messages where it went elsewhere. -/
  | document
  /-- The text on a line of its own. -/
  | line
  | config
deriving DecidableEq, Repr

/-- The printed part of a report. -/
def View.print (colored : Bool) (c : Config) (r : Report) : View → List Char
  | nothing => []
  | banks => bankLines .terminal colored r.banks ++ messageLines colored r.messages
  | rows =>
    bankLines .terminal colored r.banks ++ rowLines .terminal colored c r.rows ++ messageLines colored r.messages
  | messages => messageLines colored r.messages
  | document => (r.output.map String.toList).getD (messageLines colored r.messages)
  | line => ((r.output.map fun s => s.toList ++ ['\n'])).getD []
  | config => (r.config.map (configLines colored)).getD []

/-! ### Requests -/

/-- Words with blanks between them. -/
def joinWords (words : List String) : String := " ".intercalate words

/-- Where a document goes. -/
def targetOf (inline : Bool) : Command.Target := if inline then .inline else .store

/-- The requests of a subcommand, each with what is printed of its report. -/
def Subcommand.requests : Subcommand → List (Request × View)
  | openBank bank => [(.openBank bank, .banks)]
  | preload => [(.preload, .banks)]
  | list => [(.preload, .nothing), (.list, .banks)]
  | showBank bank filter => [(.showBank bank filter, .rows)]
  | set bank register address words =>
    [(.set bank register address (joinWords words), .messages), (.saveUnsaved, .messages)]
  | delete bank register address =>
    [(.delete bank register address, .messages), (.saveUnsaved, .messages)]
  | resolve bank inline => [(.resolve bank (targetOf inline), .document)]
  | exportBank bank inline => [(.exportBank bank (targetOf inline), .document)]
  | get words => [(.value (joinWords words) none, .line)]
  | config => [(.config, .config)]

/-- Carry out requests up to the first failure, and print their reports. -/
def runAll {σ : Type} [Storage σ] (colored : Bool) :
    List (Request × View) → Workspace σ → List Char × Option Failure × Workspace σ
  | [], ws => ([], none, ws)
  | (request, view) :: rest, ws =>
    match request.run ws with
    | (.error f, ws) => ([], some f, ws)
    | (.ok report, ws) =>
      let printed := view.print colored ws.config report
      let (more, failure, ws) := runAll colored rest ws
      (printed ++ more, failure, ws)

/-! ### Runs -/

/-- What a run knows of its surroundings. -/
structure Surroundings where
  /-- The directory that the environment names. -/
  home : Option String := none
  /-- The directory of user data. -/
  dataHome : Option String := none
  /-- Whether output is coloured. -/
  colored : Bool := false

/-- Whether a variable of the environment says yes; all values but `0` do. -/
def saysYes (value : String) : Bool := value ≠ "0"

/-- Whether output is coloured: where that is forced, and on a terminal unless colours are switched
off. -/
def isColored (force noColor color : Option String) (terminal : Bool) : Bool :=
  force.any saysYes || (noColor.isNone && color.all saysYes && terminal)

/-- The directory of user data: the absolute one that the environment names, else the usual one
below the user's home. -/
def userData? (named home : Option String) : Option String :=
  (named.filter FileTree.isAbsolute).or
    ((home.filter (· ≠ "")).map (FileTree.joinPath · ".local/share"))

/-- What a run leaves behind. -/
structure Outcome where
  exitCode : UInt32
  stdout : String := ""
  stderr : String := ""
  tree : FileTree
  /-- Temporary files that could not be renamed. -/
  leftovers : List (Path × String) := []

/-- The name of the program inside the directory of user data. -/
def programName : String := "scripted"

/-- The version text. -/
def versionText : String := programName ++ " 0.3.0\n"

/-- The text of help. -/
def helpText : String :=
  "Numbered text banks with cross-reference resolution\n\n"
    ++ "Usage: " ++ programName ++ " [--root DIR] [-v] [COMMAND]\n\n"
    ++ "  open BANK                        open a bank, creating it if need be\n"
    ++ "  preload                          load every bank and list them\n"
    ++ "  list                             list the banks\n"
    ++ "  show BANK [-f TEXT]              show the values of a bank\n"
    ++ "  set [-r REG] BANK ADDR VALUE...  set a value\n"
    ++ "  delete [-r REG] BANK ADDR        delete a value\n"
    ++ "  resolve BANK [--stdout]          resolve a bank into a text document\n"
    ++ "  export BANK [--stdout]           export a bank as JSON\n"
    ++ "  get TEXT...                      resolve a text\n"
    ++ "  config                           show the configuration\n"

/-- What is said of arguments that do not meet the grammar. -/
def usageText : String := "error: the arguments are not understood\n\n" ++ helpText

/-- The directory of a run: the one given, else the one of the environment unless that is empty,
else one among the user's data. -/
def chooseRoot (s : Surroundings) (given : Option String) : Option String :=
  given.or ((s.home.filter (· ≠ "")).or (s.dataHome.map (FileTree.joinPath · programName)))

/-- The directory that a command line is about, if it asks for anything to be done. -/
def workingDirectory? (s : Surroundings) (args : List String) : Option String :=
  match Invocation.ofArguments args with
  | .ok invocation => chooseRoot s invocation.root
  | .error _ => none

/-- The line on which a failure is reported.  The file system's own words are not part of it. -/
def failureText (f : Failure) : String :=
  "Error: " ++ f.message ++ (if f = .io then "" else "\n")

/-- Carry out a subcommand in a directory of a file tree. -/
def executeIn (colored : Bool) (tree : FileTree) (root : String) (subcommand : Subcommand) :
    Outcome :=
  match NamedDirectory.load tree root with
  | .error f => { exitCode := 1, stderr := failureText f, tree := tree }
  | .ok named =>
    let (printed, failure, ws) := runAll colored subcommand.requests { store := named }
    let store := ws.store.store
    { exitCode := if failure.isSome then 1 else 0
      stdout := .ofList printed
      stderr := (failure.map failureText).getD ""
      tree := store.tree
      leftovers := store.leftovers }

/-- One run of the program. -/
def execute (s : Surroundings) (tree : FileTree) (args : List String) : Outcome :=
  match Invocation.ofArguments args with
  | .error .usage => { exitCode := 2, stderr := usageText, tree := tree }
  | .error .help => { exitCode := 0, stdout := helpText, tree := tree }
  | .error .version => { exitCode := 0, stdout := versionText, tree := tree }
  | .ok invocation =>
    match chooseRoot s invocation.root with
    | none => { exitCode := 1, stderr := failureText .noDirectory, tree := tree }
    | some root => executeIn s.colored tree root invocation.subcommand

end Textbank.Console

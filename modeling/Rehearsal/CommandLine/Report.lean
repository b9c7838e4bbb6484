import Rehearsal.CommandLine.Arguments
import Rehearsal.Config
import Rehearsal.Definition.Load

/-!
# What the program reports

`Command.report` carries out a command: what goes to the two outputs, and the code that the program
ends with. Paths of resources are taken from the configured directory, else from the directory of
the file that holds the test case. A report names the file that was asked for and not found, so that
whoever has only some of the files at hand can look for it and ask again.
-/

namespace Rehearsal

/-- What the program puts out in the end. -/
structure Report where
  code : Nat := 0
  output : String := ""
  errors : String := ""
  /-- The file that was asked for and not found. -/
  unread : Option String := none
  deriving DecidableEq, Repr

/-! ### Help -/

/-- The name and version of the program. -/
def programVersion : String := "courier 0.1.0"

def Topic.text : Topic → String
  | .program => "\n".intercalate [
      "Message-based integration test runner",
      "",
      "Usage: courier <COMMAND>",
      "",
      "Commands:",
      "  run       Run a test case",
      "  validate  Load a test case and check its references without running it",
      "  help      Print this message or the help of the given subcommand(s)",
      "",
      "Options:",
      "  -h, --help     Print help",
      "  -V, --version  Print version",
      ""]
  | .run => "\n".intercalate [
      "Run a test case",
      "",
      "Usage: courier run [OPTIONS] --case <CASE>",
      "",
      "Options:",
      "  -c, --case <CASE>       Path to the test case YAML file",
      "  -v, --var <NAME=VALUE>  Override a declared variable (repeatable)",
      "  -h, --help              Print help",
      ""]
  | .validate => "\n".intercalate [
      "Load a test case and check its references without running it",
      "",
      "Usage: courier validate --case <CASE>",
      "",
      "Options:",
      "  -c, --case <CASE>  Path to the test case YAML file",
      "  -h, --help         Print help",
      ""]
  | .help => "\n".intercalate [
      "Print this message or the help of the given subcommand(s)",
      "",
      "Usage: courier help [COMMAND]...",
      "",
      "Arguments:",
      "  [COMMAND]...  Print help for the subcommand(s)",
      ""]

/-! ### Directories -/

namespace Loader

/-- A path from its end without the slashes and dots that lead nowhere. -/
def trimEnd : List Char → List Char
  | ['/'] => ['/']
  | '/' :: r => trimEnd r
  | ['.', '/'] => ['/']
  | '.' :: '/' :: r => trimEnd r
  | r => r

/-- The directory that a path lies in; the empty path and the root lie in none. -/
def parent? (path : String) : Option String :=
  match trimEnd path.toList.reverse with
  | [] => none
  | ['/'] => none
  | r => some (String.ofList (trimEnd (r.dropWhile (· ≠ '/'))).reverse)

end Loader

namespace Command

/-- Why a command failed, in words. -/
structure Failure where
  message : String
  unread : Option String := none

/-- The file whose absence an error comes from. -/
def unread? (e : Error) : Option String :=
  match e.rootCause with
  | .resource path => some path
  | _ => none

/-- The error in the words of a command. -/
def Failure.ofError (before : String) (e : Error) : Failure :=
  { message := before ++ ": " ++ e.message, unread := unread? e }

/-- Load the test case in a file. -/
def load (config : Config) (reader : FileReader) (path : String) : Except Failure LoadedCase := do
  let directory := config.resourceDir.or (Loader.parent? path)
  let context := { Context.standard with loader := .files reader directory }
  let definition ← (TestCaseDefinition.ofFile reader path).mapError
    (Failure.ofError ("Failed to load " ++ path))
  (definition.load context config.defaultTimeout).mapError
    (Failure.ofError ("Invalid test case " ++ path))

/-- The line about a variable that is given another template. -/
def overrideLine (v : String × String) : String :=
  let (name, value) := v
  s!"  ℹ Variable override: {name}={value}\n"

/-- Run a loaded test case: the last line of the output, or why it failed. -/
def runLoaded (l : LoadedCase) (fresh : Fresh) : Except Failure String :=
  let ((l, outcome), world) := l.run fresh
  let name := l.testCase.name
  match l.testCase.result with
  | .success =>
    let actions := l.testCase.states.length
    let messages := world.context.messages.size
    .ok s!"  ✓ {name} SUCCESS ({actions} actions, {messages} messages)\n"
  | .failed action cause =>
    let action := action.getD "<variables>"
    let unread := match outcome with
      | .error e => unread? e
      | .ok () => none
    .error { message := s!"{name} FAILED in action '{action}': {cause}", unread }
  | .pending => .error { message := s!"{name} did not complete" }

/-- The lines about a loaded test case. -/
def summary (l : LoadedCase) : String :=
  let name := l.testCase.name
  let actions := l.testCase.actions.length
  String.join (s!"  ✓ Test case '{name}'\n" :: s!"  ✓ {actions} top-level actions\n"
    :: l.endpoints.keys.map fun endpoint => s!"  ✓ Endpoint '{endpoint}'\n")

/-- A report that ends in an error. -/
def failed (output : String) (f : Failure) : Report :=
  { code := 1, output, errors := "Error: " ++ f.message ++ "\n", unread := f.unread }

/-- Run the test case in a file. -/
def reportRun (config : Config) (reader : FileReader) (fresh : Fresh) (path : String)
    (overrides : List (String × String)) : Report :=
  let output := s!"▶ Running {path}...\n"
  match load config reader path with
  | .error f => failed output f
  | .ok l =>
    let output := output ++ String.join (overrides.map overrideLine)
    let l := overrides.foldl (fun l (name, value) => l.declare name value) l
    match runLoaded l fresh with
    | .error f => failed output f
    | .ok line => { output := output ++ line }

/-- Load the test case in a file. -/
def reportValidate (config : Config) (reader : FileReader) (path : String) : Report :=
  let output := s!"🔍 Validating {path}...\n"
  match load config reader path with
  | .error f => failed output f
  | .ok l => { output := output ++ summary l }

/-- Carry out a command in an environment, with the files that the reader finds. -/
def report (environment : String → Option String) (reader : FileReader) (fresh : Fresh)
    (command : Command) : Report :=
  let configured (f : Config → Report) : Report :=
    match Config.ofEnvironment environment with
    | .ok config => f config
    | .error e => failed "" { message := e.message }
  match command with
  | .version => { output := programVersion ++ "\n" }
  | .help topic => { output := topic.text }
  | .run path overrides => configured fun config => reportRun config reader fresh path overrides
  | .validate path => configured fun config => reportValidate config reader path

/-- The report on arguments that are at fault. -/
def usageReport : Report := { code := 2, errors := Topic.program.text }

end Command
end Rehearsal

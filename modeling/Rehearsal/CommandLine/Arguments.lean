import Rehearsal.Text.Blank
import Rehearsal.Text.Search

/-!
# Arguments of the command line

`Command.ofArguments?` reads what the program is asked to do. A long option has its value behind an
equals sign or in the next argument, a short one behind its letter as well; an argument that looks
like an option is no value. Arguments are looked at from the left: help is given as soon as it is
asked for, and any fault before that is a fault.
-/

namespace Rehearsal

/-- What help is about. -/
inductive Topic
  | program
  | run
  | validate
  | help
  deriving DecidableEq, Repr

/-- What the program is asked to do. -/
inductive Command
  /-- Run the test case in a file, with other templates for some of its variables. -/
  | run (path : String) (overrides : List (String × String))
  /-- Load the test case in a file, but do not run it. -/
  | validate (path : String)
  | version
  | help (topic : Topic)
  deriving DecidableEq, Repr

namespace Command

/-- An option of a command. -/
inductive Switch
  | path
  | override
  | help
  deriving DecidableEq, Repr

/-- What has been read of the options of a command. -/
structure Options where
  path : Option String := none
  overrides : List (String × String) := []
  deriving DecidableEq, Repr

/-- What the options of a command come to. -/
inductive Reading
  | help
  | options (o : Options)

def longSwitch? (name : String) : Option Switch :=
  match name with
  | "case" => some .path
  | "var" => some .override
  | "help" => some .help
  | _ => none

def shortSwitch? (letter : Char) : Option Switch :=
  match letter with
  | 'c' => some .path
  | 'v' => some .override
  | 'h' => some .help
  | _ => none

/-- A variable with a template: what stands before and behind the first equals sign. -/
def readOverride? (value : String) : Option (String × String) := do
  let (name, template) ← Text.splitOnce? '=' value.toList
  let name := Text.trim name
  if name.isEmpty then none else some (String.ofList name, String.ofList template)

/-- The options with one more. A path is given once and is not empty. -/
def Options.set? (o : Options) (switch : Switch) (value : String) : Option Options :=
  match switch with
  | .path => if o.path.isSome ∨ value = "" then none else some { o with path := some value }
  | .override =>
    (readOverride? value).map fun v => { o with overrides := o.overrides ++ [v] }
  | .help => none

/-- Does an argument look like an option? -/
def looksLikeOption (arg : String) : Bool :=
  match arg.toList with
  | '-' :: _ :: _ => true
  | _ => false

/-- An option as it stands in an argument, with the value that is attached to it. -/
def readSwitch? (arg : String) : Option (Switch × Option String) :=
  match arg.toList with
  | '-' :: '-' :: body =>
    let (name, value) := match Text.splitOnce? '=' body with
      | some (name, value) => (name, some (String.ofList value))
      | none => (body, none)
    (longSwitch? (String.ofList name)).map (·, value)
  | '-' :: letter :: body => do
    let switch ← shortSwitch? letter
    match switch, body with
    | .help, _ => some (switch, none)
    | _, [] => some (switch, none)
    | _, '=' :: value => some (switch, some (String.ofList value))
    | _, value => some (switch, some (String.ofList value))
  | _ => none

/-- Read the options of a command; `admits` tells which ones it has. -/
def readOptions? (admits : Switch → Bool) : Options → List String → Option Reading
  | o, [] => some (.options o)
  | o, arg :: rest =>
    if arg = "--" then if rest.isEmpty then some (.options o) else none
    else
      match (readSwitch? arg).filter (admits ·.1) with
      | none => none
      | some (.help, none) => some .help
      | some (.help, some _) => none
      | some (switch, some value) => (o.set? switch value).bind fun o => readOptions? admits o rest
      | some (switch, none) =>
        match rest with
        | [] => none
        | value :: rest =>
          if looksLikeOption value then none
          else (o.set? switch value).bind fun o => readOptions? admits o rest

/-- A command from its options, which have to give a path. -/
def ofReading? (topic : Topic) (command : String → Options → Command) : Reading → Option Command
  | .help => some (.help topic)
  | .options o => o.path.map fun path => command path o

/-- What is asked for; nothing where the arguments are at fault. -/
def ofArguments? : List String → Option Command
  | "run" :: args =>
    (readOptions? (fun _ => true) {} args).bind
      (ofReading? .run fun path o => .run path o.overrides)
  | "validate" :: args =>
    (readOptions? (· ≠ .override) {} args).bind (ofReading? .validate fun path _ => .validate path)
  | "help" :: topics =>
    match topics with
    | [] => some (.help .program)
    | ["run"] => some (.help .run)
    | ["validate"] => some (.help .validate)
    | ["help"] => some (.help .help)
    | _ => none
  | arg :: _ =>
    if arg = "--help" then some (.help .program)
    else if arg = "--version" then some .version
    else
      match arg.toList with
      | '-' :: 'h' :: _ => some (.help .program)
      | '-' :: 'V' :: _ => some .version
      | _ => none
  | [] => none

end Command
end Rehearsal

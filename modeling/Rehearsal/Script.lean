import Rehearsal.Markup
import Rehearsal.Text.Blank

/-!
# Scripts

A script engine makes a payload from the text of a script. `Script.lines` is an engine that writes
markup: every line is a command, and what is behind the first blank is what the command is about.
`start` takes the name of an element and its attributes, `elem` a name and a text, `text` a text,
`end` closes an element; `raw` gives its rest as the payload at once, and `fail` fails with it.
-/

namespace Rehearsal

/-- An engine gives a payload, or says why there is none. -/
abbrev ScriptEngine := String → Except String String

namespace Script

/-- A command and what stands behind the first blank. -/
def splitWord (cs : List Char) : List Char × List Char := (Text.splitOnce? ' ' cs).getD (cs, [])

/-- The attributes among words: what stands before and behind the first equals sign. -/
def attributes (words : List (List Char)) : List (String × String) :=
  (words.filterMap (Text.splitOnce? '=')).map fun (k, v) => (String.ofList k, String.ofList v)

/-- What a line does. -/
inductive Effect
  | go (m : Markup)
  | finished (payload : String)
  | failed (reason : String)

/-- Run one line, without the blanks around it. -/
def runLine (m : Markup) (line : List Char) : Effect :=
  let (command, rest) := splitWord line
  match String.ofList command with
  | "" => .go m
  | "start" =>
    match Text.splitOn ' ' rest with
    | name :: words => .go (m.start (String.ofList name) (attributes words))
    | [] => .go (m.start "" [])
  | "text" => .go (m.text (String.ofList rest))
  | "elem" =>
    let (name, s) := splitWord rest
    .go (m.element (String.ofList name) (String.ofList s))
  | "end" =>
    match m.stop with
    | .ok m => .go m
    | .error fault => .failed fault.message
  | "raw" => .finished (String.ofList rest)
  | "fail" => .failed (String.ofList rest)
  | command => .failed s!"unknown command '{command}'"

/-- Run lines, and finish the document behind the last one. -/
def runLines (m : Markup) : List (List Char) → Except String String
  | [] =>
    match m.finish with
    | .ok s => .ok s
    | .error fault => .error fault.message
  | line :: lines =>
    match runLine m (Text.trim line) with
    | .go m => runLines m lines
    | .finished payload => .ok payload
    | .failed reason => .error reason

/-- The engine that writes markup line by line. -/
def lines : ScriptEngine := fun script => runLines {} (Text.splitOn '\n' script.toList)

end Script
end Rehearsal

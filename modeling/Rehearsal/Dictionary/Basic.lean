import Rehearsal.Message.Basic
import Rehearsal.Path
import Rehearsal.Pattern.Match
import Rehearsal.Scope

/-!
# Data dictionaries

A data dictionary translates the payloads of messages. A simple one replaces texts and matches of
patterns in the text of the payload, one mapping after the other. One by JSON paths replaces those
leaves of a document whose paths its mappings match; of the mappings that match a leaf the first
one counts, and the values come from templates. What a custom dictionary does is kept elsewhere,
under a number. Dictionaries are told apart by their identity, not by what they hold.
-/

namespace Rehearsal

/-- How the key of a mapping is compared with the path of a leaf. -/
inductive PathStrategy
  | exactly
  | startsWith
  | endsWith
  deriving DecidableEq, Repr

namespace PathStrategy

def name : PathStrategy → String
  | .exactly => "EXACT"
  | .startsWith => "STARTS_WITH"
  | .endsWith => "ENDS_WITH"

def all : List PathStrategy := [.exactly, .startsWith, .endsWith]

/-- The strategy with exactly this name. -/
def ofName? (s : String) : Option PathStrategy := all.find? (·.name = s)

/-- The strategy with this name in any case. -/
def parse (s : String) : Except Error PathStrategy :=
  let upper := Text.asciiUpper s
  match ofName? upper with
  | some t => .ok t
  | none => .error (.config (.strategy upper))

/-- Does a key match a path? -/
def accepts (s : PathStrategy) (path key : String) : Bool :=
  match s with
  | .exactly => path = key
  | .startsWith => Text.startsWith key.toList path.toList
  | .endsWith => Text.endsWith key.toList path.toList

end PathStrategy

/-- What a mapping of a simple dictionary looks for. -/
inductive MappingKey
  | literal (text : String)
  | pattern (program : Pattern.Program)

/-- What a dictionary puts in the place of what. -/
inductive Mappings
  /-- Keys with the templates of what is put in their place. -/
  | simple (entries : List (MappingKey × String))
  | jsonPath (strategy : PathStrategy) (entries : Assoc String)
  /-- There are no mappings; the dictionary is not built in. -/
  | custom (key : Nat)

/-- A data dictionary. -/
structure Dictionary where
  /-- What tells dictionaries apart. -/
  id : Nat
  name : String
  direction : Direction := .unbound
  /-- Does the dictionary translate every message that goes its way? -/
  isGlobal : Bool := false
  mappings : Mappings

namespace Dictionary

/-- The dictionary has mappings, however many. -/
def IsBuiltIn (d : Dictionary) : Prop := ∀ key, d.mappings ≠ .custom key

/-! ### Putting mappings in -/

/-- Map a text to a template. -/
def addLiteral (d : Dictionary) (key value : String) : Dictionary :=
  { d with mappings := match d.mappings with
    | .simple ms => .simple (ms ++ [(.literal key, value)])
    | .jsonPath s ms => .jsonPath s (ms.insert key value)
    | .custom key => .custom key }

/-- Map the matches of a pattern to a template. Only a simple dictionary has patterns. -/
def addPattern (d : Dictionary) (pattern value : String) : Except Error Dictionary :=
  match d.mappings with
  | .simple ms =>
    match Pattern.compile pattern with
    | .ok prog => .ok { d with mappings := .simple (ms ++ [(.pattern prog, value)]) }
    | .error fault => .error (.dictionary d.name (.pattern pattern fault))
  | _ => .ok d

/-- Map several texts to templates, in this order. -/
def addAll (d : Dictionary) (mappings : List (String × String)) : Dictionary :=
  mappings.foldl (fun d (k, v) => d.addLiteral k v) d

/-! ### Translating texts -/

/-- Put a text in every place of what a key looks for. -/
def replaceKey (key : MappingKey) (new cs : List Char) : List Char :=
  match key with
  | .literal text => Text.replaceAll text.toList new cs
  | .pattern prog => prog.replaceAll (fun _ => new) cs

/-- Run all mappings over a text, one after the other. -/
def translateText (s : Scope) : List (MappingKey × String) → List Char → Draw (List Char)
  | [], cs => return cs
  | (key, template) :: ms, cs => do
    let new ← s.resolveChars template.toList
    translateText s ms (replaceKey key new cs)

/-! ### Translating documents -/

/-- The template for a leaf: that of the first mapping that matches its path. -/
def templateFor? (strategy : PathStrategy) (mappings : Assoc String) (path : String) :
    Option String :=
  (mappings.entries.find? fun (key, _) => strategy.accepts path key).map (·.2)

/-- Replace the leaves with these paths, where a mapping matches them. -/
def translateLeaves (s : Scope) (strategy : PathStrategy) (mappings : Assoc String) :
    List String → Json → Draw Json
  | [], document => return document
  | path :: paths, document =>
    match templateFor? strategy mappings path with
    | none => translateLeaves s strategy mappings paths document
    | some template => do
      let new ← s.resolve template
      translateLeaves s strategy mappings paths
        ((Path.set? (Path.parse path) (.text new) document).getD document)

/-- Replace the leaves of a document. -/
def translateDocument (s : Scope) (strategy : PathStrategy) (mappings : Assoc String)
    (document : Json) : Draw Json :=
  translateLeaves s strategy mappings (Path.leafPaths document) document

/-! ### Translating payloads -/

/-- Is the message left alone by dictionaries by paths: declared as something else than JSON, and
not carrying JSON either? -/
def isForeign (m : Message) : Bool :=
  match m.type, m.payload with
  | none, _ => false
  | some .json, _ => false
  | some _, .json _ => false
  | some _, _ => true

/-- A document as this dictionary's error, if it could not be read. -/
def readable (d : Dictionary) (fault : Json.Fault → DictionaryFault)
    (document : Except Json.Fault Json) : Except Error Json :=
  match document with
  | .ok v => .ok v
  | .error f => .error (.dictionary d.name (fault f))

/-- The payload that the mappings of the dictionary put in the place of a message's payload. -/
def translatePayload (d : Dictionary) (s : Scope) (m : Message) : Draw Payload :=
  match d.mappings with
  | .simple mappings =>
    match m.payload with
    | .text t => return .ofText (String.ofList (← translateText s mappings t.toList))
    | .json v => do
      let cs ← translateText s mappings v.write
      return .json (← liftM (d.readable .resultJson (Json.parse (String.ofList cs))))
    | p => return p
  | .jsonPath strategy mappings => do
    if m.payload.isEmpty || mappings.isEmpty || isForeign m then return m.payload
    let document ← liftM (d.readable .payloadJson m.payload.document)
    let document ← translateDocument s strategy mappings document
    match m.payload with
    | .json _ => return .json document
    | _ => return .text document.render
  | .custom _ => return m.payload

end Dictionary
end Rehearsal

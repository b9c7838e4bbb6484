import Rehearsal.Definition.Basic
import Rehearsal.Resource.Basic
import Rehearsal.Yaml.Value

/-!
# Reading definitions

A definition is a YAML document. What is declared is read by the shape that is needed; an action is
known by its field `action` and is therefore read by the form that its values have. Fields that are
not known do not count.
-/

namespace Rehearsal

open Yaml (Fault Node required defaulting)
open Yaml.Node (record)

/-! ### Declarations -/

namespace Actor

def ofYaml : Node → Yaml.Reader Actor :=
  record ["name", "disabled"] fun
    | [name, disabled] => do
      return {
        name := ← required "name" Node.text name
        disabled := ← defaulting false Node.flag disabled }
    | _ => Yaml.Reader.wrong "an actor"

end Actor

/-- A field that may be missing and may be null. -/
def optionalField {α : Type} (read : Node → Yaml.Reader α) :
    Option Node → Yaml.Reader (Option α) := defaulting none (Node.optional read)

namespace EndpointDefinition

def ofYaml : Node → Yaml.Reader EndpointDefinition :=
  record ["name", "timeout_ms", "actor"] fun
    | [name, timeout, actor] => do
      return {
        name := ← required "name" Node.text name
        timeout := ← optionalField Node.natural timeout
        actor := ← optionalField Node.text actor }
    | _ => Yaml.Reader.wrong "an endpoint"

end EndpointDefinition

namespace DictionaryDefinition

def ofYaml : Node → Yaml.Reader DictionaryDefinition :=
  record ["name", "kind", "direction", "global", "strategy", "mappings", "mappings_resource"] fun
    | [name, kind, direction, isGlobal, strategy, mappings, resource] => do
      return {
        name := ← required "name" Node.text name
        kind := ← defaulting .simple (Node.named DictionaryKind.ofName?) kind
        direction := ← defaulting .unbound (Node.named Direction.ofName?) direction
        isGlobal := ← defaulting false Node.flag isGlobal
        strategy := ← defaulting .exactly (Node.named PathStrategy.ofName?) strategy
        mappings := ← defaulting .empty (Node.assoc Node.text) mappings
        mappingsResource := ← optionalField Node.text resource }
    | _ => Yaml.Reader.wrong "a dictionary"

end DictionaryDefinition

/-! ### Messages -/

namespace Yaml.Value

/-- A field that may be missing and may be null. -/
def optionalField {α : Type} (read : Value → Except Fault α) :
    Option Value → Except Fault (Option α) := defaulting none (toOption read)

end Yaml.Value

open Yaml (Value)
open Yaml.Value (toText toNatural toList toAssoc)

namespace MessageDefinition

def readType (v : Value) : Except Fault MessageType :=
  v.toNamed (MessageType.all.map (·.name)) MessageType.ofName?

def ofValue (v : Value) : Except Fault MessageDefinition := do
  match ← v.toRecord ["name", "type", "payload", "payload_resource", "charset", "script",
      "script_resource", "headers", "header_data", "header_resource"] with
  | [name, type, payload, payloadResource, charset, script, scriptResource, headers, headerData,
      headerResource] =>
    return {
      name := ← Value.optionalField toText name
      type := ← Value.optionalField readType type
      payload := ← Value.optionalField toText payload
      payloadResource := ← Value.optionalField toText payloadResource
      charset := ← Value.optionalField toText charset
      script := ← Value.optionalField toText script
      scriptResource := ← Value.optionalField toText scriptResource
      headers := ← defaulting .empty (toAssoc Value.toJson) headers
      headerData := ← defaulting [] (toList toText) headerData
      headerResource := ← Value.optionalField toText headerResource }
  | _ => throw (.form "a message")

end MessageDefinition

namespace ExtractDefinition

def ofValue (v : Value) : Except Fault ExtractDefinition := do
  match ← v.toRecord ["headers", "json"] with
  | [headers, json] =>
    return {
      headers := ← defaulting .empty (toAssoc toText) headers
      json := ← defaulting .empty (toAssoc toText) json }
  | _ => throw (.form "what is extracted")

end ExtractDefinition

/-! ### Actions -/

namespace SendDefinition

/-- What is said of sending and receiving alike. -/
def ofFields (name endpoint actor message dictionary extract : Option Value) :
    Except Fault SendDefinition := do
  return {
    name := ← Value.optionalField toText name
    endpoint := ← required "endpoint" toText endpoint
    actor := ← Value.optionalField toText actor
    message := ← defaulting {} MessageDefinition.ofValue message
    dictionary := ← Value.optionalField toText dictionary
    extract := ← defaulting {} ExtractDefinition.ofValue extract }

def ofValue (v : Value) : Except Fault SendDefinition := do
  match ← v.toRecord ["name", "endpoint", "actor", "message", "dictionary", "extract"] with
  | [name, endpoint, actor, message, dictionary, extract] =>
    ofFields name endpoint actor message dictionary extract
  | _ => throw (.form "what is sent")

end SendDefinition

namespace ReceiveDefinition

def ofValue (v : Value) : Except Fault ReceiveDefinition := do
  match ← v.toRecord ["name", "endpoint", "actor", "message", "dictionary", "timeout_ms",
      "extract"] with
  | [name, endpoint, actor, message, dictionary, timeout, extract] =>
    let s ← SendDefinition.ofFields name endpoint actor message dictionary extract
    return { s with timeout := ← Value.optionalField toNatural timeout }
  | _ => throw (.form "what is received")

end ReceiveDefinition

namespace ActionDefinition

/-- The names of the kinds of actions. -/
def kinds : List String :=
  ["echo", "send", "receive", "sequence", "conditional", "create_variables", "sleep", "fail"]

/-- The one value of a record of one field. -/
def onlyField {α : Type} (name : String) (read : Value → Except Fault α) (v : Value) :
    Except Fault α := do
  required name read (← v.toRecord [name]).head?.join

/-- The kind of an action and its other fields, in the list of the entries of a mapping. -/
def splitKind (kind? : Value → Except Fault String) (es : List (Value × Value)) :
    Except Fault (String × Value) := do
  let isKind (e : Value × Value) : Bool :=
    match e.1 with
    | .text "action" => true
    | _ => false
  match es.filter isKind with
  | [(_, v)] => return (← kind? v, .mapping (es.filter (!isKind ·)))
  | [] => throw (.missingField "action")
  | _ => throw (.duplicateField "action")

/-- The kind of an action and its other fields. -/
def tagged (v : Value) : Except Fault (String × Value) := do
  match v with
  | .mapping es => splitKind (Value.toName kinds) es
  | .sequence (kind :: rest) => return (← kind.toName kinds, .sequence rest)
  | _ => throw (.form "an action")

mutual
/-- An action from its kind and its other fields; `fuel` bounds how deep actions are nested. -/
def ofKind : (fuel : Nat) → (kind : String) → Value → Except Fault ActionDefinition
  | 0, _, _ => .error .tooDeep
  | fuel + 1, kind, v => do
    match kind with
    | "echo" => return .echo (← onlyField "message" toText v)
    | "send" => return .send (← SendDefinition.ofValue v)
    | "receive" => return .receive (← ReceiveDefinition.ofValue v)
    | "sequence" =>
      match ← v.toRecord ["name", "actor", "actions"] with
      | [name, actor, actions] =>
        let name ← Value.optionalField toText name
        let actor ← Value.optionalField toText actor
        return .sequence name actor (← required "actions" (ofValues fuel) actions)
      | _ => throw (.form "a sequence")
    | "conditional" =>
      match ← v.toRecord ["name", "actor", "when", "actions"] with
      | [name, actor, condition, actions] =>
        let name ← Value.optionalField toText name
        let actor ← Value.optionalField toText actor
        let condition ← required "when" toText condition
        return .conditional name actor condition (← required "actions" (ofValues fuel) actions)
      | _ => throw (.form "a conditional")
    | "create_variables" =>
      return .createVariables (← onlyField "variables" (toAssoc toText) v)
    | "sleep" => return .sleep (← onlyField "milliseconds" toNatural v)
    | "fail" => return .fail (← onlyField "message" toText v)
    | kind => throw (.unknownName kind)

/-- A list of actions. -/
def ofValues : (fuel : Nat) → Value → Except Fault (List ActionDefinition)
  | 0, _ => .error .tooDeep
  | fuel + 1, v => v.toList fun v => do
    let (kind, v) ← tagged v
    ofKind fuel kind v
end

/-- How deep the actions of a document may be nested; deeper ones are unreadable before. -/
def maxNesting : Nat := 2 * Yaml.maxDepth + 2

/-- An entry of an outermost action. Its kind is read as a text, whatever its form is. -/
def entryOf (k v : Node) : Yaml.Reader (Value × Value) := do
  let k ← k.value
  match k with
  | .text "action" => return (k, .text (← v.text))
  | _ => return (k, ← v.value)

/-- An outermost action. -/
def ofYaml (n : Node) : Yaml.Reader ActionDefinition := do
  match ← Yaml.Reader.follow n with
  | .mapping tag es =>
    Node.refuseLocal tag
    let es ← Yaml.Reader.inside (es.mapM fun (k, v) => entryOf k v)
    let (kind, v) ← splitKind toText es
    ofKind maxNesting kind v
  | .sequence tag (kind :: rest) =>
    Node.refuseLocal tag
    let (kind, rest) ← Yaml.Reader.inside do
      let kind ← kind.text
      return (kind, ← rest.mapM Node.value)
    ofKind maxNesting kind (.sequence rest)
  | _ => Yaml.Reader.wrong "an action"

end ActionDefinition

/-! ### Test cases -/

namespace TestCaseDefinition

def ofYaml : Node → Yaml.Reader TestCaseDefinition :=
  record ["name", "description", "variables", "actors", "endpoints", "dictionaries", "actions"] fun
    | [name, description, vars, actors, endpoints, dictionaries, actions] => do
      return {
        name := ← required "name" Node.text name
        description := ← optionalField Node.text description
        vars := ← defaulting .empty (Node.assoc Node.text) vars
        actors := ← defaulting [] (Node.list Actor.ofYaml) actors
        endpoints := ← defaulting [] (Node.list EndpointDefinition.ofYaml) endpoints
        dictionaries := ← defaulting [] (Node.list DictionaryDefinition.ofYaml) dictionaries
        actions := ← defaulting [] (Node.list ActionDefinition.ofYaml) actions }
    | _ => Yaml.Reader.wrong "a test case"

/-- Read the definition of a test case. -/
def parse (s : String) : Except Error TestCaseDefinition :=
  match Yaml.Document.parse s >>= (·.read ofYaml) with
  | .ok d => .ok d
  | .error fault => .error (.config (.definition fault.message))

/-- The definition in a file: it has to be there and to be text in UTF-8. -/
def ofFile (reader : FileReader) (path : String) : Except Error TestCaseDefinition :=
  match (reader path).map Text.Utf8.decode? with
  | some (.ok cs) => parse (String.ofList cs)
  | _ => .error (.resource path)

end TestCaseDefinition

/-! ### Mappings -/

namespace Loader

/-- The mappings in a resource. -/
def mappings (l : Loader) (path : String) : Except Error (Assoc String) := do
  let r ← l.load path
  let t ← r.text
  match Yaml.Document.parse t >>= (·.read (Node.assoc Node.text)) with
  | .ok m => return m
  | .error fault => throw (.config (.mappings path fault.message))

end Loader
end Rehearsal

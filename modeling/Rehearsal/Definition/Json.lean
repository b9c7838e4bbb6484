import Rehearsal.Definition.Basic

/-!
# Definitions as JSON

The form of a definition as a JSON document, under the names that it is read by. Everything is
there: what was not said has its default, and null where there is none.
-/

namespace Rehearsal

namespace Json

def ofOption {α : Type} (f : α → Json) : Option α → Json
  | some a => f a
  | none => .null

def ofText? (t : Option String) : Json := ofOption .text t

def ofTexts (ts : List String) : Json := .array (ts.map .text)

/-- An object with a text under every key. -/
def ofTextMap (m : Assoc String) : Json := .object (m.mapValues .text).entries

end Json

open Json (ofOption ofText? ofTexts ofTextMap)

def Actor.toJson (a : Actor) : Json :=
  .object [("name", .text a.name), ("disabled", .bool a.disabled)]

def EndpointDefinition.toJson (e : EndpointDefinition) : Json :=
  .object [("name", .text e.name), ("timeout_ms", ofOption Json.ofNat e.timeout),
    ("actor", ofText? e.actor)]

def DictionaryDefinition.toJson (d : DictionaryDefinition) : Json :=
  .object [("name", .text d.name), ("kind", .text d.kind.name),
    ("direction", .text d.direction.name), ("global", .bool d.isGlobal),
    ("strategy", .text d.strategy.name), ("mappings", ofTextMap d.mappings),
    ("mappings_resource", ofText? d.mappingsResource)]

def MessageDefinition.toJson (m : MessageDefinition) : Json :=
  .object [("name", ofText? m.name), ("type", ofOption (fun t => .text t.name) m.type),
    ("payload", ofText? m.payload), ("payload_resource", ofText? m.payloadResource),
    ("charset", ofText? m.charset), ("script", ofText? m.script),
    ("script_resource", ofText? m.scriptResource), ("headers", .object m.headers.entries),
    ("header_data", ofTexts m.headerData), ("header_resource", ofText? m.headerResource)]

def ExtractDefinition.toJson (e : ExtractDefinition) : Json :=
  .object [("headers", ofTextMap e.headers), ("json", ofTextMap e.json)]

/-- The fields that sending and receiving have in common. -/
def SendDefinition.fields (s : SendDefinition) : List (String × Json) :=
  [("name", ofText? s.name), ("endpoint", .text s.endpoint), ("actor", ofText? s.actor),
    ("message", s.message.toJson), ("dictionary", ofText? s.dictionary),
    ("extract", s.extract.toJson)]

namespace ActionDefinition

/-- An action of a kind. -/
def object (kind : String) (fields : List (String × Json)) : Json :=
  .object (("action", .text kind) :: fields)

mutual
def toJson : ActionDefinition → Json
  | .echo message => object "echo" [("message", .text message)]
  | .send s => object "send" s.fields
  | .receive r =>
    object "receive" (r.toSendDefinition.fields ++ [("timeout_ms", ofOption Json.ofNat r.timeout)])
  | .sequence name actor actions =>
    object "sequence"
      [("name", ofText? name), ("actor", ofText? actor), ("actions", .array (listToJson actions))]
  | .conditional name actor condition actions =>
    object "conditional"
      [("name", ofText? name), ("actor", ofText? actor), ("when", .text condition),
        ("actions", .array (listToJson actions))]
  | .createVariables vars =>
    object "create_variables" [("variables", ofTextMap vars)]
  | .sleep milliseconds => object "sleep" [("milliseconds", Json.ofNat milliseconds)]
  | .fail message => object "fail" [("message", .text message)]

def listToJson : List ActionDefinition → List Json
  | [] => []
  | a :: as => toJson a :: listToJson as
end

end ActionDefinition

def TestCaseDefinition.toJson (t : TestCaseDefinition) : Json :=
  .object [("name", .text t.name), ("description", ofText? t.description),
    ("variables", ofTextMap t.vars), ("actors", .array (t.actors.map Actor.toJson)),
    ("endpoints", .array (t.endpoints.map EndpointDefinition.toJson)),
    ("dictionaries", .array (t.dictionaries.map DictionaryDefinition.toJson)),
    ("actions", .array (ActionDefinition.listToJson t.actions))]

end Rehearsal

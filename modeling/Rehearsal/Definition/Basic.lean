import Rehearsal.Dictionary.Basic
import Rehearsal.Endpoint

/-!
# Definitions of test cases

What a file says of a test case: its variables, the actors, endpoints and dictionaries that it
declares, and the tree of its actions, which refer to those by their names.
-/

namespace Rehearsal

structure EndpointDefinition where
  name : String
  /-- How many milliseconds a message is waited for. -/
  timeout : Option Nat := none
  actor : Option String := none
  deriving DecidableEq, Repr

/-- What a dictionary translates by. -/
inductive DictionaryKind
  | simple
  | jsonPath
  deriving DecidableEq, Repr

namespace DictionaryKind

def name : DictionaryKind → String
  | .simple => "simple"
  | .jsonPath => "json_path"

def all : List DictionaryKind := [.simple, .jsonPath]

/-- The kind with exactly this name. -/
def ofName? (s : String) : Option DictionaryKind := all.find? (·.name = s)

end DictionaryKind

structure DictionaryDefinition where
  name : String
  kind : DictionaryKind := .simple
  direction : Direction := .unbound
  isGlobal : Bool := false
  strategy : PathStrategy := .exactly
  mappings : Assoc String := .empty
  /-- The path of a resource with more mappings. -/
  mappingsResource : Option String := none

/-- What is said of a message that is sent, or of the control message of a received one. -/
structure MessageDefinition where
  name : Option String := none
  type : Option MessageType := none
  payload : Option String := none
  payloadResource : Option String := none
  /-- The charset of the payload's resource. -/
  charset : Option String := none
  script : Option String := none
  scriptResource : Option String := none
  headers : Assoc Json := .empty
  headerData : List String := []
  headerResource : Option String := none

/-- What is copied from a message into variables. -/
structure ExtractDefinition where
  /-- Names of headers with the names of variables. -/
  headers : Assoc String := .empty
  /-- Paths with the names of variables. -/
  json : Assoc String := .empty

structure SendDefinition where
  name : Option String := none
  endpoint : String
  actor : Option String := none
  message : MessageDefinition := {}
  dictionary : Option String := none
  extract : ExtractDefinition := {}

structure ReceiveDefinition extends SendDefinition where
  /-- How many milliseconds the message is waited for. -/
  timeout : Option Nat := none

inductive ActionDefinition
  | echo (message : String)
  | send (s : SendDefinition)
  | receive (r : ReceiveDefinition)
  | sequence (name actor : Option String) (actions : List ActionDefinition)
  | conditional (name actor : Option String) (condition : String) (actions : List ActionDefinition)
  | createVariables (vars : Assoc String)
  | sleep (milliseconds : Nat)
  | fail (message : String)

/-- What a file says of a test case. -/
structure TestCaseDefinition where
  name : String
  description : Option String := none
  /-- The variables with their templates. -/
  vars : Assoc String := .empty
  actors : List Actor := []
  endpoints : List EndpointDefinition := []
  dictionaries : List DictionaryDefinition := []
  actions : List ActionDefinition := []

end Rehearsal

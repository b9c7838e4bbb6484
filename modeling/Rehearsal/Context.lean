import Rehearsal.Endpoint
import Rehearsal.Processor
import Rehearsal.Resource.Basic
import Rehearsal.Script

/-!
# The context of a test case

A context holds what the actions of one test case share: its scope, the chain of processors, what
names refer to, where resources come from, the script engine and the messages that were stored.
-/

namespace Rehearsal

/-- What a name is bound to. -/
inductive Binding
  | endpoint (e : Endpoint)
  | dictionary (d : Dictionary)

/-- What names are bound to. Endpoints and dictionaries share their names. -/
abbrev Bindings := Assoc Binding

namespace Bindings

/-- The endpoint with this name. -/
def endpoint (b : Bindings) (name : String) : Except Error Endpoint :=
  match b.get? name with
  | some (.endpoint e) => .ok e
  | _ => .error (.referenceNotFound name .endpoint)

/-- The dictionary with this name. -/
def dictionary (b : Bindings) (name : String) : Except Error Dictionary :=
  match b.get? name with
  | some (.dictionary d) => .ok d
  | _ => .error (.referenceNotFound name .dictionary)

/-- The names of endpoints, in order. -/
def endpointNames (b : Bindings) : List String :=
  b.entries.filterMap fun (name, v) => match v with
    | .endpoint _ => some name
    | .dictionary _ => none

/-- The names of dictionaries, in order. -/
def dictionaryNames (b : Bindings) : List String :=
  b.entries.filterMap fun (name, v) => match v with
    | .dictionary _ => some name
    | .endpoint _ => none

end Bindings

/-- Something that is given itself or by its name. -/
inductive Reference (α : Type)
  | direct (a : α)
  | named (name : String)

/-- What is referred to, where `find` looks up a name. -/
def Reference.get {α : Type} (find : String → Except Error α) : Reference α → Except Error α
  | .direct a => .ok a
  | .named name => find name

/-- What the actions of one test case share. -/
structure Context extends Scope where
  chain : List Processor := []
  bindings : Bindings := .empty
  loader : Loader := .memory .empty
  engine : Option ScriptEngine := none
  /-- The messages that were sent and received. -/
  messages : Assoc Message := .empty

end Rehearsal

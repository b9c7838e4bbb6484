import Rehearsal.Definition.Reader
import Rehearsal.Function.Standard
import Rehearsal.Matcher.Standard
import Rehearsal.TestCase

/-!
# Loading test cases

`TestCaseDefinition.load` makes a test case that can be run from its definition: the endpoints and
dictionaries that it declares are bound to their names, the global dictionaries join the chain of
processors, and the actions are put together. What an action refers to has to be declared. Of two
declarations under one name the later one counts, and dictionaries are declared after endpoints.
-/

namespace Rehearsal

/-- A context with the functions and matchers that are always there. -/
def Context.standard : Context :=
  { functions := [Function.standard], matchers := [Matcher.standard] }

/-- A test case that can be run, with what was declared for it. -/
structure LoadedCase where
  testCase : TestCase
  /-- The context that a run begins with. -/
  context : Context
  endpoints : Assoc Endpoint

/-! ### Declarations -/

/-- What the names in a definition refer to. -/
structure Declarations where
  actors : Assoc Actor
  endpoints : Assoc Endpoint := .empty
  dictionaries : List String := []

namespace Declarations

/-- The actor with a name, if one is given. -/
def actor? (d : Declarations) : Option String → Except Error (Option Actor)
  | none => .ok none
  | some name =>
    match d.actors.get? name with
    | some a => .ok (some a)
    | none => .error (.config (.actor name))

def checkEndpoint (d : Declarations) (name : String) : Except Error Unit :=
  if d.endpoints.contains name then .ok () else .error (.config (.endpoint name))

def checkDictionary (d : Declarations) : Option String → Except Error Unit
  | none => .ok ()
  | some name =>
    if d.dictionaries.contains name then .ok () else .error (.config (.dictionary name))

/-- The declarations with the endpoints of these definitions. All of them are channels; as they are
kept by their names, the names alone tell the channels apart. -/
def addEndpoints (timeout : Nat) :
    List EndpointDefinition → Declarations → Except Error Declarations
  | [], d => .ok d
  | e :: es, d => do
    let actor ← d.actor? e.actor
    let endpoint : Endpoint := { name := e.name, timeout := e.timeout.getD timeout, actor }
    addEndpoints timeout es { d with endpoints := d.endpoints.insert e.name endpoint }

end Declarations

/-! ### Dictionaries -/

namespace DictionaryDefinition

/-- The dictionary without mappings. -/
def empty (d : DictionaryDefinition) (id : Nat) : Dictionary where
  id
  name := d.name
  direction := d.direction
  isGlobal := d.isGlobal
  mappings := match d.kind with
    | .simple => .simple []
    | .jsonPath => .jsonPath d.strategy .empty

/-- The dictionary with the mappings of the definition and then those of its resource. -/
def dictionary (d : DictionaryDefinition) (id : Nat) (loader : Loader) :
    Except Error Dictionary := do
  let own := (d.empty id).addAll d.mappings.entries
  match d.mappingsResource with
  | none => return own
  | some path => return own.addAll (← loader.mappings path).entries

/-- The first number behind those of the dictionaries in a chain. -/
def firstId (chain : List Processor) : Nat :=
  ((chain.filterMap Processor.dictionary?).map (·.id + 1)).foldr max 0

/-- The dictionaries of definitions, numbered from `id`. -/
def dictionaries (loader : Loader) :
    (id : Nat) → List DictionaryDefinition → Except Error (List Dictionary)
  | _, [] => .ok []
  | id, d :: ds => do
    let dictionary ← d.dictionary id loader
    return dictionary :: (← dictionaries loader (id + 1) ds)

end DictionaryDefinition

/-! ### Actions -/

namespace MessageDefinition

/-- A text that is given itself or by its resource; what is given itself counts. -/
def source? (text path charset : Option String) : Option Source :=
  match text, path with
  | some t, _ => some (.literal t)
  | none, some p => some (.resource p charset)
  | none, none => none

def description (m : MessageDefinition) : Description where
  name := m.name
  payload := source? m.payload m.payloadResource m.charset
  script := source? m.script m.scriptResource none
  headers := m.headers
  headerData := m.headerData.map .literal
    ++ (m.headerResource.map fun path => Source.resource path none).toList

end MessageDefinition

/-- The processors that copy what is extracted. -/
def ExtractDefinition.processors (e : ExtractDefinition) : List Processor :=
  (if e.headers.isEmpty then [] else [.extractHeaders e.headers])
    ++ if e.json.isEmpty then [] else [.extractJson e.json]

namespace SendDefinition

/-- Check what the definition refers to; its actor. -/
def check (s : SendDefinition) (d : Declarations) : Except Error (Option Actor) := do
  d.checkEndpoint s.endpoint
  d.checkDictionary s.dictionary
  d.actor? s.actor

def action (s : SendDefinition) (d : Declarations) : Except Error Action := do
  let actor ← s.check d
  SendOutline.action
    { name := s.name, actor, endpoint := some (.named s.endpoint)
      message := s.message.description, type := s.message.type
      dictionary := s.dictionary.map .named, processors := s.extract.processors }

end SendDefinition

def ReceiveDefinition.action (r : ReceiveDefinition) (d : Declarations) : Except Error Action := do
  let actor ← r.check d
  ReceiveOutline.action
    { name := r.name, actor, endpoint := some (.named r.endpoint)
      message := r.message.description, type := r.message.type, timeout := r.timeout
      dictionary := r.dictionary.map .named, processors := r.extract.processors }

namespace ActionDefinition

mutual
/-- The action of a definition, where everything it refers to is declared. -/
def action (d : Declarations) : ActionDefinition → Except Error Action
  | .echo message => .ok (.echo message)
  | .fail message => .ok (.fail message)
  | .sleep milliseconds => .ok (.sleep milliseconds)
  | .createVariables vars => .ok (.createVariables vars)
  | .send s => s.action d
  | .receive r => r.action d
  | .sequence name actor as => do
    let actor ← d.actor? actor
    return .sequence (name.getD Action.sequenceName) actor (← actions d as)
  | .conditional name actor condition as => do
    let actor ← d.actor? actor
    return .conditional (name.getD Action.conditionalName) actor condition (← actions d as)

/-- The actions of definitions, in order. -/
def actions (d : Declarations) : List ActionDefinition → Except Error (List Action)
  | [] => .ok []
  | a :: as => do
    let action ← action d a
    return action :: (← actions d as)
end

end ActionDefinition

/-! ### Test cases -/

namespace TestCaseDefinition

/-- Make the test case of a definition, in a context that gives its resources, where endpoints wait
for `timeout` milliseconds that do not say so themselves. -/
def load (t : TestCaseDefinition) (base : Context) (timeout : Nat) : Except Error LoadedCase := do
  let actors := Assoc.ofList (t.actors.map fun a => (a.name, a))
  let d ← Declarations.addEndpoints timeout t.endpoints { actors }
  let firstId := DictionaryDefinition.firstId base.chain
  let dictionaries ← DictionaryDefinition.dictionaries base.loader firstId t.dictionaries
  -- what actions refer to is checked against the names, not against the table below
  let d := { d with dictionaries := t.dictionaries.map (·.name) }
  -- a dictionary with the name of an endpoint takes its place
  let bindings : Bindings :=
    (d.endpoints.mapValues Binding.endpoint).insertAll
      (dictionaries.map fun dict => (dict.name, .dictionary dict))
  let chain := base.chain ++ (dictionaries.filter (·.isGlobal)).map .dictionary
  let actions ← ActionDefinition.actions d t.actions
  return {
    testCase := { name := t.name, vars := t.vars, actions }
    context := { base with chain, bindings }
    endpoints := d.endpoints }

end TestCaseDefinition

namespace LoadedCase

/-- Declare a variable, or give one that was declared another template. -/
def declare (l : LoadedCase) (name value : String) : LoadedCase :=
  { l with testCase := l.testCase.declare name value }

/-- The world before a run: nothing waits at the endpoints, and all that counts is built in. -/
def world (l : LoadedCase) (fresh : Fresh) : World :=
  { context := l.context, queues := .empty, fresh }

/-- Run the test case; the world after it. -/
def run (l : LoadedCase) (fresh : Fresh) : (LoadedCase × Except Error Unit) × World :=
  let ((testCase, outcome), world) := (l.testCase.run.run (l.world fresh)).run
  (({ l with testCase }, outcome), world)

end LoadedCase
end Rehearsal

import Rehearsal.Transit

/-!
# The world of a run

The world is the context of a test case together with what outlives it: the messages in the
channels, the random numbers and the clock, what is not built in, and what endpoints were asked for
that are no channels. A `Run` is a computation in the world that may fail; what it has done before
it fails stays done.
-/

namespace Rehearsal

/-- A context and what outlives it. -/
structure World where
  context : Context
  queues : Queues
  fresh : Fresh
  extensions : Extensions := {}
  requests : Requests := []

namespace World

/-- A world in which nothing has happened. -/
def initial : World where
  context := {}
  queues := .empty
  fresh := {}

/-- A message that sets out in this world. -/
def setOut (w : World) (m : Message) : Transit where
  message := m
  context := w.context
  fresh := w.fresh
  extensions := w.extensions

/-- The world after a message has got to this point on its way. -/
def after (w : World) (t : Transit) : World :=
  { w with context := t.context, fresh := t.fresh }

end World

/-- A computation in the world. -/
abbrev Run := ExceptT Error (StateM World)

namespace Run

def context : Run Context := return (← get).context

def modifyContext (f : Context → Context) : Run Unit :=
  modify fun w => { w with context := f w.context }

/-- Run what looks at the context and may take random numbers. -/
def draw {α : Type} (f : Context → Draw α) : Run α := do
  let w ← get
  match (f w.context).run w.fresh with
  | .ok (a, fresh) =>
    set { w with fresh }
    return a
  | .error e => throw e

/-- The text that a template stands for. -/
def resolve (template : String) : Run String := draw fun c => c.resolve template

/-- Bind a variable. -/
def bindVariable (name : String) (value : Json) : Run Unit :=
  modifyContext fun c => { c with toScope := c.bind name value }

/-- Bind variables to what their templates stand for. Each template sees the variables before it. -/
def bindTemplates : List (String × String) → Run Unit
  | [] => return
  | (name, template) :: rest => do
    let text ← resolve template
    bindVariable name (.text text)
    bindTemplates rest

/-- Let a message pass a step. What the step does to the message, to the context and to the random
numbers before it fails stays done; the result is the message with the step's own result. -/
def pass {α : Type} (step : Step α) (m : Message) : StateM World (Except Error α × Message) := do
  let w ← get
  -- the step runs to its end or its error, and what it left is taken over either way
  let (result, t) := (step.run (w.setOut m)).run
  set (w.after t)
  return (result, t.message)

/-- Let a message pass a step, and go on with the message if the step does not fail. -/
def through (step : Step Unit) (m : Message) : Run Message := do
  match ← liftM (pass step m) with
  | (.ok (), m) => return m
  | (.error e, _) => throw e

/-- Store a message under a key; one that is there gives way. -/
def store (key : String) (m : Message) : Run Unit :=
  modifyContext fun c => { c with messages := c.messages.insert key m }

/-! ### Endpoints -/

/-- Ask an endpoint for something that is no channel. -/
def ask {α : Type} (key : Nat) (request : Request)
    (answer : Carrier → Requests → Context → Except Error α) : Run α := do
  let w ← get
  set { w with requests := w.requests ++ [(key, request)] }
  liftM (answer (w.extensions.carrier key) w.requests w.context)

/-- Put a message into a channel. -/
def putInto (c : Channel) (m : Message) : Run Unit := do
  let w ← get
  match w.queues.put c m with
  | .ok queues => set { w with queues }
  | .error err => throw err

/-- Take a message from a channel. As nothing else fills the channel, waiting for one is in vain. -/
def takeFrom (c : Channel) (timeout : Nat) : Run Message := do
  let w ← get
  match w.queues.take? c with
  | some (m, queues) =>
    set { w with queues }
    return m
  | none => throw (.timeout c.name timeout)

/-- Hand a message to an endpoint. -/
def put (e : Endpoint) (m : Message) : Run Unit := do
  match e.transport with
  | .channel id => putInto { id, name := e.name, capacity := e.capacity } m
  | .custom key =>
    ask key .producer fun carrier past _ => carrier.producer past
    ask key (.send m) fun carrier past c => carrier.send past c m

/-- Get a message from an endpoint. -/
def take (e : Endpoint) (timeout : Nat) : Run Message := do
  match e.transport with
  | .channel id => takeFrom { id, name := e.name, capacity := e.capacity } timeout
  | .custom key =>
    ask key .consumer fun carrier past _ => carrier.consumer past
    ask key (.receive timeout) fun carrier past c => carrier.receive past c timeout

/-- Take all messages from the channel of an endpoint. -/
def drain (e : Endpoint) : Run (List Message) :=
  modifyGet fun w => (w.queues.waiting e, { w with queues := w.queues.clear e })

end Run
end Rehearsal

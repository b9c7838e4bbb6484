import Rehearsal.Context

/-!
# Messages in transit

On its way between a test case and an endpoint a message passes through steps that may change it and
the context, and fail. What a step has done before it fails stays done. `Processor.run` is the step
of a processor, and `Processor.passes` lets a message pass the dictionaries and then the other
processors of a chain. What is not built in is found under its number in `Extensions`. These stand
apart from the context, so that they may act on all of it, the chain included.
-/

namespace Rehearsal

/-! ### What is not built in -/

/-- A message on its way, with all that a processor sees besides it and may change. -/
structure Passage where
  message : Message
  context : Context
  fresh : Fresh

/-- The scope of the context. -/
def Passage.scope (p : Passage) : Scope := p.context.toScope

/-- What an endpoint is asked for that is no channel. -/
inductive Request
  /-- To get ready for a message that is sent. -/
  | producer
  | send (m : Message)
  /-- To get ready for somebody who receives. -/
  | consumer
  | receive (timeout : Nat)

/-- The requests so far, each with the number of the endpoint that was asked. -/
abbrev Requests := List (Nat × Request)

/-- How an endpoint that is no channel carries messages. What it does may hang on all requests
before, and where a message is sent or received on the context too. -/
structure Carrier where
  producer : Requests → Except Error Unit := fun _ => .ok ()
  send : Requests → Context → Message → Except Error Unit := fun _ _ _ => .ok ()
  consumer : Requests → Except Error Unit := fun _ => .ok ()
  receive : Requests → Context → (timeout : Nat) → Except Error Message :=
    fun _ _ timeout => .error (.timeout "" timeout)

/-- What is done under the numbers of processors, dictionaries and endpoints that are not built
in. -/
structure Extensions where
  /-- A processor may change all that it sees. -/
  process : Nat → ExceptT Error (StateM Passage) Unit := fun _ => pure ()
  /-- A dictionary sees the context, and may change the message. -/
  translate : Nat → Context → ExceptT Error (StateM (Message × Fresh)) Unit := fun _ _ => pure ()
  carrier : Nat → Carrier := fun _ => {}

/-- A message on its way, and what is done by what is not built in. -/
structure Transit extends Passage where
  extensions : Extensions := {}

/-! ### Steps -/

/-- A step on the way of a message. -/
abbrev Step := ExceptT Error (StateM Transit)

namespace Step

/-- The message as it stands. -/
def message : Step Message := return (← get).message

/-- Put another message in the place of the present one. -/
def replace (m : Message) : Step Unit := modify fun t => { t with message := m }

/-- The context as it stands. -/
def context : Step Context := return (← get).context

/-- The scope as it stands. -/
def scope : Step Scope := return (← get).scope

/-- Put another scope in the place of the present one. -/
def replaceScope (s : Scope) : Step Unit :=
  modify fun t => { t with context := { t.context with toScope := s } }

/-- Bind a variable. -/
def bindVariable (name : String) (value : Json) : Step Unit := do
  replaceScope ((← scope).bind name value)

/-- Run what may take random numbers. Where it fails it has taken none. -/
def draw {α : Type} (d : Draw α) : Step α := do
  match d.run (← get).fresh with
  | .ok (a, fresh) =>
    modify fun t => { t with fresh }
    return a
  | .error e => throw e

/-- Do what a processor does that is not built in. -/
def process (key : Nat) : Step Unit := do
  let t ← get
  let (result, p) := ((t.extensions.process key).run t.toPassage).run
  set { t with toPassage := p }
  liftM result

/-- Do what a dictionary does that is not built in. -/
def translate (key : Nat) : Step Unit := do
  let t ← get
  let (result, message, fresh) :=
    ((t.extensions.translate key t.context).run (t.message, t.fresh)).run
  set { t with message, fresh }
  liftM result

end Step

/-- Translate the message on its way; where the mappings fail to, it stays as it is. -/
def Dictionary.translate (d : Dictionary) : Step Unit := do
  match d.mappings with
  | .custom key => Step.translate key
  | _ =>
    let m ← Step.message
    let payload ← Step.draw (d.translatePayload (← Step.scope) m)
    Step.replace { m with payload }

theorem Dictionary.translate_of_isBuiltIn {d : Dictionary} (h : d.IsBuiltIn) :
    d.translate = (do
      let m ← Step.message
      let payload ← Step.draw (d.translatePayload (← Step.scope) m)
      Step.replace { m with payload }) := by
  unfold translate
  split
  · next key hd => exact absurd hd (h key)
  · rfl

namespace Processor

/-- Copy headers into variables, as far as they are there. -/
def runHeaders : List (String × String) → Step Unit
  | [] => return
  | (header, name) :: rest => do
    match (← Step.message).header? header with
    | some v =>
      Step.bindVariable name (.text v.plain)
      runHeaders rest
    | none => throw (.processing (.missingHeader header))

/-- Copy the values at paths into variables, as far as they are there. -/
def runPaths (document : Json) : List (String × String) → Step Unit
  | [] => return
  | (path, name) :: rest => do
    match Path.get? (Path.parse path) document with
    | some v =>
      Step.bindVariable name (.text v.plain)
      runPaths document rest
    | none => throw (.processing (.noValue path))

/-- Run a processor. -/
def run : Processor → Step Unit
  | .dictionary d => d.translate
  | .extractHeaders mapping => runHeaders mapping.entries
  | .extractJson mapping => do
    -- without paths the payload need not even be a document
    if mapping.isEmpty then return
    match (← Step.message).payload.document with
    | .ok document => runPaths document mapping.entries
    | .error fault => throw (.processing (.payloadJson fault))
  | .simple _ f => do
    match f (← Step.message) (← Step.scope) with
    | .ok (m, s) =>
      Step.replace m
      Step.replaceScope s
    | .error e => throw e
  | .custom _ key => Step.process key

/-- Run processors, one after the other. -/
def runAll : List Processor → Step Unit
  | [] => return
  | p :: ps => do
    p.run
    runAll ps

/-- Let a message pass its dictionaries. -/
def applyDictionaries (chain : List Processor) (towards : Direction)
    (attached : Option Dictionary) : Step Unit :=
  runAll ((dictionariesFor chain towards attached).map .dictionary)

/-- Let a message pass the processors that are no dictionaries. -/
def applyProcessors (chain : List Processor) (towards : Direction) : Step Unit :=
  runAll (othersFor chain towards)

/-- Let a message pass its dictionaries and then the other processors. Either way the chain is
taken as it stands then: what a processor does to it comes too late for this message. -/
def passes (towards : Direction) (attached : Option Dictionary) : Step Unit := do
  applyDictionaries (← Step.context).chain towards attached
  applyProcessors (← Step.context).chain towards

end Processor
end Rehearsal

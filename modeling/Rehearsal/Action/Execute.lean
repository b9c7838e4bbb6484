import Rehearsal.Action.Basic
import Rehearsal.Condition
import Rehearsal.Validation

/-!
# Running actions

An action whose actor is switched off is skipped; an action that sends or receives and has no actor
of its own takes the endpoint's. Every error that comes out of an action is wrapped with its name,
also that of a container around the failing action. Containers run their actions in order up to the
first that fails.
-/

namespace Rehearsal

/-- What became of an action. -/
inductive ActionState
  | done
  | skipped
  | failed
  deriving DecidableEq, Repr

def ActionState.name : ActionState → String
  | .done => "done"
  | .skipped => "skipped"
  | .failed => "failed"

namespace Run

/-- Wrap the error of a computation with the name of an action. -/
def within {α : Type} (action : String) (r : Run α) : Run α := do
  match ← liftM r.run with
  | .ok a => return a
  | .error e => throw (.execution action e)

/-- The endpoint that is referred to. -/
def endpoint (r : Reference Endpoint) : Run Endpoint := do
  liftM (r.get (← context).bindings.endpoint)

/-- The dictionary that is referred to, if any is. -/
def dictionary : Option (Reference Dictionary) → Run (Option Dictionary)
  | none => return none
  | some r => do return some (← liftM (r.get (← context).bindings.dictionary))

/-- Is what an endpoint is used for switched off? The actor of the action itself decides, else the
actor of the endpoint. -/
def isDisabled (actor : Option Actor) (e : Reference Endpoint) : Run Bool := do
  match actor with
  | some a => return a.disabled
  | none => return (← endpoint e).actor.any (·.disabled)

/-- Run the body of an action unless it is switched off. -/
def unlessDisabled (disabled : Run Bool) (body : Run Unit) : Run ActionState := do
  if ← disabled then return .skipped
  body
  return .done

end Run

/-- The way of a message out: the dictionaries, the processors of the chain and those of the
action. -/
def SendAction.steps (s : SendAction) (attached : Option Dictionary) : Step Unit := do
  Processor.passes .outbound attached
  Processor.runAll s.processors

/-- Build a message, let it pass its steps, store it and hand it to the endpoint. -/
def SendAction.run (s : SendAction) : Run Unit := do
  let e ← Run.endpoint s.endpoint
  let m ← Run.draw fun c => s.builder.build c s.type
  let attached ← Run.dictionary s.dictionary
  let m ← Run.through (s.steps attached) m
  -- what the endpoint makes of the message does not show in the store
  Run.store (m.name.getD ("send(" ++ e.name ++ ")")) m
  Run.put e m

/-- Hold a message against the control message, if there is one. -/
def ReceiveAction.check (r : ReceiveAction) (m : Message) : Run Unit := do
  match r.control with
  | none => return
  | some b =>
    let control ← Run.draw fun c => b.build c r.type
    Run.draw fun c => c.validate r.type m control

/-- Get a message from the endpoint, let it pass its steps, hold it against the control message and
store it. -/
def ReceiveAction.run (r : ReceiveAction) : Run Unit := do
  let e ← Run.endpoint r.endpoint
  let m ← Run.take e (r.timeout.getD e.timeout)
  let attached ← Run.dictionary r.dictionary
  let m ← Run.through (Processor.passes .inbound attached) m
  r.check m
  let m ← Run.through (Processor.runAll r.processors) m
  Run.store (m.name.getD ("receive(" ++ e.name ++ ")")) m

namespace Action

mutual
/-- Run an action. -/
def execute : Action → Run ActionState
  | .echo message => Run.within "echo" do
    let _ ← Run.resolve message
    return .done
  | .fail message => Run.within "fail" do
    throw (.validation (.other (← Run.resolve message)))
  -- sleeping has no errors to wrap
  | .sleep _ => return .done
  | .createVariables vars => Run.within "create-variables" do
    Run.bindTemplates vars.entries
    return .done
  | .send s => Run.within s.name (Run.unlessDisabled (Run.isDisabled s.actor s.endpoint) s.run)
  | .receive r => Run.within r.name (Run.unlessDisabled (Run.isDisabled r.actor r.endpoint) r.run)
  | .sequence name actor actions =>
    Run.within name (Run.unlessDisabled (pure (actor.any (·.disabled))) do
      let _ ← executeAll actions)
  | .conditional name actor condition actions =>
    Run.within name (Run.unlessDisabled (pure (actor.any (·.disabled))) do
      if ← Run.draw fun c => c.holds condition then
        let _ ← executeAll actions)
  | .custom name actor body =>
    Run.within name (Run.unlessDisabled (pure (actor.any (·.disabled))) body)

/-- Run actions in order, up to the first that fails. -/
def executeAll : List Action → Run (List ActionState)
  | [] => return []
  | a :: as => do
    let state ← execute a
    let states ← executeAll as
    return state :: states
end

end Action
end Rehearsal

import Rehearsal.Message.Builder
import Rehearsal.World

/-!
# Actions

What a test case does, as a tree: leaves do one thing, and containers hold actions of their own;
`custom` is any leaf that is not built in. `SendOutline` and `ReceiveOutline` say what is known of
an action that sends or receives while it is put together; `SendOutline.action` and
`ReceiveOutline.action` give the action, if nothing is missing and nothing is said twice.
-/

namespace Rehearsal

/-- An action that sends a message. -/
structure SendAction where
  name : String := "send"
  actor : Option Actor := none
  endpoint : Reference Endpoint
  builder : Builder
  type : MessageType := .xml
  dictionary : Option (Reference Dictionary) := none
  processors : List Processor := []

/-- An action that receives a message and holds it against a control message if there is one. -/
structure ReceiveAction where
  name : String := "receive"
  actor : Option Actor := none
  endpoint : Reference Endpoint
  control : Option Builder := none
  type : MessageType := .xml
  /-- How many milliseconds the message is waited for, if not as long as the endpoint says. -/
  timeout : Option Nat := none
  dictionary : Option (Reference Dictionary) := none
  processors : List Processor := []

/-- What a test case does. -/
inductive Action
  | echo (message : String)
  | fail (message : String)
  | sleep (milliseconds : Nat)
  | createVariables (vars : Assoc String)
  | send (s : SendAction)
  | receive (r : ReceiveAction)
  | sequence (name : String) (actor : Option Actor) (actions : List Action)
  | conditional (name : String) (actor : Option Actor) (condition : String)
      (actions : List Action)
  /-- A leaf that is not built in. -/
  | custom (name : String) (actor : Option Actor) (body : Run Unit)

namespace Action

/-- The name of a sequence that was given none. -/
def sequenceName : String := "sequence"

/-- The name of a conditional that was given none. -/
def conditionalName : String := "conditional"

/-- The name that errors of the action carry. -/
def name : Action → String
  | .echo _ => "echo"
  | .fail _ => "fail"
  | .sleep _ => "sleep"
  | .createVariables _ => "create-variables"
  | .send s => s.name
  | .receive r => r.name
  | .sequence name _ _ => name
  | .conditional name _ _ _ => name
  | .custom name _ _ => name

/-- The actor that was given to the action itself. -/
def actor? : Action → Option Actor
  | .send s => s.actor
  | .receive r => r.actor
  | .sequence _ actor _ => actor
  | .conditional _ actor _ _ => actor
  | .custom _ actor _ => actor
  | _ => none

end Action

/-- What is known of an action that sends. -/
structure SendOutline where
  name : Option String := none
  actor : Option Actor := none
  endpoint : Option (Reference Endpoint) := none
  message : Description := {}
  type : Option MessageType := none
  dictionary : Option (Reference Dictionary) := none
  processors : List Processor := []

/-- The action, if there is an endpoint and one builder. -/
def SendOutline.action (o : SendOutline) : Except Error Action :=
  match o.endpoint with
  | none => .error (.config (.endpointRequired "send"))
  | some endpoint => do
    let builder ← o.message.builder
    return .send
      { name := o.name.getD "send", actor := o.actor, endpoint, builder,
        type := o.type.getD .xml, dictionary := o.dictionary, processors := o.processors }

/-- What is known of an action that receives. -/
structure ReceiveOutline where
  name : Option String := none
  actor : Option Actor := none
  endpoint : Option (Reference Endpoint) := none
  message : Description := {}
  type : Option MessageType := none
  timeout : Option Nat := none
  dictionary : Option (Reference Dictionary) := none
  processors : List Processor := []

/-- The builder of a control message, if anything is said of one. -/
def Description.control (d : Description) : Except Error (Option Builder) :=
  if d.isEmpty then .ok none else d.builder.map some

/-- The action, if there is an endpoint and no more than one builder. -/
def ReceiveOutline.action (o : ReceiveOutline) : Except Error Action :=
  match o.endpoint with
  | none => .error (.config (.endpointRequired "receive"))
  | some endpoint => do
    let control ← o.message.control
    return .receive
      { name := o.name.getD "receive", actor := o.actor, endpoint, control,
        type := o.type.getD .xml, timeout := o.timeout, dictionary := o.dictionary,
        processors := o.processors }

end Rehearsal

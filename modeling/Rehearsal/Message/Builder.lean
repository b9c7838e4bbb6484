import Rehearsal.Context

/-!
# Building messages

A builder makes a message from a description whose texts are templates: a copy of a given message,
a payload template, or a script that gives the payload. Every template has to stand for a text, else
no message is built. A `Description` is what a test case says of a message; `Description.builder`
finds the builder that it means, and refuses one that says two things at once.
-/

namespace Rehearsal

/-- Where a template comes from. -/
inductive Source
  | literal (text : String)
  /-- A resource, whose path is a template, with a charset that is asked for if there is one. -/
  | resource (path : String) (charset : Option String)
  deriving DecidableEq, Repr

namespace Source

/-- The template itself. -/
def load (c : Context) : Source → Draw String
  | .literal text => return text
  | .resource path charset => do
    let path ← c.resolve path
    let r ← liftM (c.loader.load path)
    liftM (r.text charset)

/-- The text that the template stands for. -/
def resolve (c : Context) (s : Source) : Draw String := do
  c.resolve (← s.load c)

/-- The texts of several templates, in order. -/
def resolveAll (c : Context) : List Source → Draw (List String)
  | [] => return []
  | s :: ss => do
    let t ← s.resolve c
    let ts ← resolveAll c ss
    return t :: ts

end Source

/-- Headers with what their values stand for; their names are no templates. -/
def Scope.resolveEntries (s : Scope) : List (String × Json) → Draw (List (String × Json))
  | [] => return []
  | (name, v) :: rest => do
    let v ← s.resolveValue v
    let rest ← s.resolveEntries rest
    return (name, v) :: rest

/-- Headers with what their values stand for. -/
def Scope.resolveHeaders (s : Scope) (headers : Assoc Json) : Draw (Assoc Json) :=
  return .ofList (← s.resolveEntries headers.entries)

/-- What makes a message. -/
inductive Builder
  /-- A copy of a message. A name and headers take the place of its own, and blocks of header data
  come behind its own. -/
  | copying (m : Message) (name : Option String) (headers : Assoc Json) (headerData : List Source)
  | template (name : Option String) (payload : Option Source) (headers : Assoc Json)
      (headerData : List Source)
  | script (name : Option String) (script : Source) (headers : Assoc Json)
      (headerData : List Source)

namespace Builder

/-- The payload of a message that is copied: a text is a template. -/
def copiedPayload (c : Context) : Payload → Draw Payload
  | .text t => return .ofText (← c.resolve t)
  | p => return p

/-- The payload that a script gives. -/
def scriptPayload (c : Context) (source : Source) : Draw Payload := do
  match c.engine with
  | none => throw (.script .noEngine)
  | some engine =>
    match engine (← source.resolve c) with
    | .ok payload => return .ofText payload
    | .error reason => throw (.script (.other reason))

/-- The payload of a template, if there is one. -/
def templatePayload (c : Context) : Option Source → Draw Payload
  | some s => return .ofText (← s.resolve c)
  | none => return .empty

/-- The message without its type. -/
def buildUntyped (c : Context) : Builder → Draw Message
  | .copying m name headers headerData => do
    let m ← m.copy
    let payload ← copiedPayload c m.payload
    -- the templates of the message come first, also where their headers give way
    let own ← c.resolveHeaders m.headers
    let extra ← c.resolveHeaders headers
    let ownData ← c.resolveAll m.headerData
    let extraData ← Source.resolveAll c headerData
    return { m with
      payload, headers := own.insertAll extra.entries, headerData := ownData ++ extraData,
      name := name.or m.name }
  | .template name payload headers headerData => do
    let m ← Message.create (← templatePayload c payload)
    let headers ← c.resolveHeaders headers
    let headerData ← Source.resolveAll c headerData
    return { m with name, headers, headerData }
  | .script name source headers headerData => do
    let m ← Message.create (← scriptPayload c source)
    let headers ← c.resolveHeaders headers
    let headerData ← Source.resolveAll c headerData
    return { m with name, headers, headerData }

/-- Build the message; one without a type is given this one. -/
def build (c : Context) (b : Builder) (type : MessageType) : Draw Message := do
  let m ← b.buildUntyped c
  return { m with type := some (m.type.getD type) }

end Builder

/-- What a test case says of a message. -/
structure Description where
  explicit : Option Builder := none
  name : Option String := none
  payload : Option Source := none
  script : Option Source := none
  message : Option Message := none
  headers : Assoc Json := .empty
  headerData : List Source := []

namespace Description

/-- Does the description say nothing of what is in the message? -/
def isEmpty (d : Description) : Bool :=
  d.explicit.isNone && d.payload.isNone && d.script.isNone && d.message.isNone
    && d.headers.isEmpty && d.headerData.isEmpty

def conflict {α : Type} (first second : String) : Except Error α :=
  .error (.config (.conflict first second))

/-- The builder that the description means. -/
def builder (d : Description) : Except Error Builder :=
  match d.explicit, d.message, d.script with
  | some b, _, _ =>
    -- an explicit builder takes neither a name nor anything else
    if d.name.isSome || !{ d with explicit := none : Description }.isEmpty then
      conflict "an explicit message builder" "other message settings"
    else .ok b
  | none, some m, _ =>
    if d.payload.isSome || d.script.isSome then
      conflict "a static message" "a payload or script"
    else .ok (.copying m d.name d.headers d.headerData)
  | none, none, some script =>
    if d.payload.isSome then conflict "a script" "a payload"
    else .ok (.script d.name script d.headers d.headerData)
  | none, none, none => .ok (.template d.name d.payload d.headers d.headerData)

end Description
end Rehearsal

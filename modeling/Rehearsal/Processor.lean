import Rehearsal.Dictionary.Basic

/-!
# Message processors

A processor looks at a message on its way, and may change it and the context of the test case. Data
dictionaries are processors; `extractHeaders` and `extractJson` copy headers and parts of the
payload into variables. `simple` is a step that needs no more than the message and the scope, and
`custom` is any other step. The chain of a context holds the processors that every message passes:
first its dictionaries, after one that was attached to the message itself, and then all others
(`dictionariesFor`, `othersFor`). Each entry is for the messages that go its way.
-/

namespace Rehearsal

/-- A step that looks at messages. -/
inductive Processor
  | dictionary (d : Dictionary)
  /-- Names of headers with the variables that they are copied into. -/
  | extractHeaders (mapping : Assoc String)
  /-- Paths with the variables that their values are copied into. -/
  | extractJson (mapping : Assoc String)
  /-- A step on the message and the scope, which fails without a trace. -/
  | simple (direction : Direction) (run : Message → Scope → Except Error (Message × Scope))
  /-- A step that is not built in. It may act on the whole context, and so on the chain that it
  stands in; what it does is therefore kept apart from the chain, under this number. -/
  | custom (direction : Direction) (key : Nat)

namespace Processor

def direction : Processor → Direction
  | .dictionary d => d.direction
  | .simple direction _ => direction
  | .custom direction _ => direction
  | _ => .unbound

def dictionary? : Processor → Option Dictionary
  | .dictionary d => some d
  | _ => none

/-- The dictionaries that translate a message that goes this way: the one attached to it, if it
goes its way, and the global ones of the chain, without that one itself. -/
def dictionariesFor (chain : List Processor) (towards : Direction) (attached : Option Dictionary) :
    List Dictionary :=
  -- an attached dictionary that is in the chain as well translates once only
  (attached.filter fun d => d.direction.appliesTo towards).toList
    ++ (chain.filterMap dictionary?).filter fun d =>
      d.isGlobal && d.direction.appliesTo towards && !attached.any (·.id = d.id)

/-- The other processors of the chain for a message that goes this way. -/
def othersFor (chain : List Processor) (towards : Direction) : List Processor :=
  chain.filter fun p => p.dictionary?.isNone && p.direction.appliesTo towards

/-! ### Simple processors -/

/-- A processor that changes the message only. -/
def onMessage (direction : Direction) (f : Message → Message) : Processor :=
  .simple direction fun m s => .ok (f m, s)

def setHeader (direction : Direction) (name : String) (value : Json) : Processor :=
  onMessage direction fun m => m.withHeader name value

def addHeaderData (direction : Direction) (block : String) : Processor :=
  onMessage direction fun m => { m with headerData := m.headerData ++ [block] }

/-- Put a text behind the text of the payload. -/
def append (direction : Direction) (text : String) : Processor :=
  onMessage direction fun m => { m with payload := .ofText (m.payload.plain ++ text) }

def bindVariable (direction : Direction) (name : String) (value : Json) : Processor :=
  .simple direction fun m s => .ok (m, s.bind name value)

def failing (direction : Direction) (reason : String) : Processor :=
  .simple direction fun _ _ => .error (.processing (.other reason))

end Processor
end Rehearsal

import Rehearsal.Text.Case
import Rehearsal.Assoc
import Rehearsal.Fresh
import Rehearsal.Text.Utf8

/-!
# Messages

A message has an identifier, a time, a payload, headers in order and blocks of header data. Two
names of headers are reserved and answer with identifier and time. Messages are the same if their
payloads and headers are, whatever the order of the headers.
-/

namespace Rehearsal

/-- What a message carries. -/
inductive Payload
  | empty
  | text (s : String)
  | json (v : Json)
  | binary (bytes : Bytes)

namespace Payload

/-- The payload of a text; the empty text is no payload. -/
def ofText (s : String) : Payload := if s = "" then .empty else .text s

/-- Is there nothing in the payload? -/
def isEmpty : Payload → Bool
  | .empty => true
  | .text s => s = ""
  | .json _ => false
  | .binary bytes => bytes.isEmpty

/-- The payload as text; bytes that are no text give replacement characters. -/
def plain : Payload → String
  | .empty => ""
  | .text s => s
  | .json v => v.render
  | .binary bytes => String.ofList (Text.Utf8.decodeLossy bytes)

/-- The payload as a JSON document. -/
def document (p : Payload) : Except Json.Fault Json :=
  match p with
  | .json v => .ok v
  | p => Json.parse p.plain

/-- Equality of payloads. -/
def same : Payload → Payload → Bool
  | .empty, .empty => true
  | .text a, .text b => a = b
  | .json a, .json b => a.same b
  | .binary a, .binary b => a = b
  | _, _ => false

end Payload

/-- What kind of text a message is, which decides how it is compared. -/
inductive MessageType
  | xml
  | json
  | plaintext
  | binary
  deriving DecidableEq, Repr

namespace MessageType

def name : MessageType → String
  | .xml => "XML"
  | .json => "JSON"
  | .plaintext => "PLAINTEXT"
  | .binary => "BINARY"

def all : List MessageType := [.xml, .json, .plaintext, .binary]

/-- The type with exactly this name. -/
def ofName? (s : String) : Option MessageType := all.find? (·.name = s)

/-- The type with this name in any case. -/
def parse (s : String) : Except Error MessageType :=
  let upper := Text.asciiUpper s
  match ofName? (if upper = "TEXT" then "PLAINTEXT" else upper) with
  | some t => .ok t
  | none => .error (.config (.messageType upper))

end MessageType

/-- The way a message goes, seen from the system under test. -/
inductive Direction
  | inbound
  | outbound
  /-- Both ways. -/
  | unbound
  deriving DecidableEq, Repr

namespace Direction

def name : Direction → String
  | .inbound => "INBOUND"
  | .outbound => "OUTBOUND"
  | .unbound => "UNBOUND"

def all : List Direction := [.inbound, .outbound, .unbound]

/-- The direction with exactly this name. -/
def ofName? (s : String) : Option Direction := all.find? (·.name = s)

/-- Does what has this direction handle messages that go in the other one? -/
def appliesTo (d towards : Direction) : Bool :=
  d = .unbound || towards = .unbound || d = towards

end Direction

/-- A message. -/
structure Message where
  id : Uuid
  timestamp : Timestamp
  name : Option String := none
  type : Option MessageType := none
  payload : Payload := .empty
  headers : Assoc Json := .empty
  headerData : List String := []

namespace Message

/-- The reserved name of the header that answers with the identifier. -/
def idHeader : String := "courier_message_id"

/-- The reserved name of the header that answers with the time. -/
def timestampHeader : String := "courier_message_timestamp"

/-- A header of the message. -/
def header? (m : Message) (name : String) : Option Json :=
  if name = idHeader then some (.text m.id.render)
  else if name = timestampHeader then some (.text m.timestamp.renderWithOffset)
  else m.headers.get? name

/-- The message with a header set. -/
def withHeader (m : Message) (name : String) (value : Json) : Message :=
  { m with headers := m.headers.insert name value }

/-- The headers as an object, in their order. -/
def headersObject (m : Message) : Json := .object m.headers.entries

/-- Are all headers of one message those of the other one? -/
def sameHeaders (a b : Assoc Json) : Bool :=
  a.size = b.size && a.entries.all fun (name, v) => (b.get? name).any v.same

/-- Messages are the same if payloads and headers are. -/
def same (a b : Message) : Bool := a.payload.same b.payload && sameHeaders a.headers b.headers

/-- The message in words. -/
def display (m : Message) : String :=
  "Message[id: " ++ m.id.render ++ ", payload: " ++ m.payload.plain
    ++ (if m.headers.isEmpty then "" else ", headers: " ++ m.headersObject.render) ++ "]"

/-- A new message with this payload. -/
def create (payload : Payload) : Draw Message := do
  let id ← Draw.uuid
  return { id, timestamp := ← Draw.now, payload }

/-- A copy with an identifier and time of its own. -/
def copy (m : Message) : Draw Message := do
  let id ← Draw.uuid
  return { m with id, timestamp := ← Draw.now }

end Message
end Rehearsal

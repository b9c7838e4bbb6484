import Rehearsal.Message.Basic

/-!
# Serialized messages

The form of a message as a JSON document. `toJson` writes all fields in a fixed order. `ofSource?`
reads a document as it is written: fields may come in any order, and no known one may come twice;
identifier and time are needed. Unknown fields do not count: it is enough that they are written as
values are. In the place of an object an array of the fields in their fixed order is read as well.
-/

namespace Rehearsal

/-! ### Writing -/

namespace Payload

/-- The name of the kind of a payload. -/
def kind : Payload → String
  | .empty => "empty"
  | .text _ => "text"
  | .json _ => "json"
  | .binary _ => "binary"

def toJson (p : Payload) : Json :=
  .object (("kind", .text p.kind) :: match p with
    | .empty => []
    | .text s => [("content", .text s)]
    | .json v => [("content", v)]
    | .binary bytes => [("content", .array (bytes.map fun b => Json.ofNat b.toNat))])

end Payload

namespace Message

def optional {α : Type} (f : α → Json) : Option α → Json
  | some a => f a
  | none => .null

def toJson (m : Message) : Json :=
  .object [("id", .text m.id.render), ("timestamp", .text m.timestamp.render),
    ("name", optional .text m.name), ("message_type", optional (fun t => .text t.name) m.type),
    ("payload", m.payload.toJson), ("headers", m.headersObject),
    ("header_data", .array (m.headerData.map .text))]

/-- The serialized form as a text. -/
def serialize (m : Message) : String := m.toJson.render

end Message

/-! ### Reading -/

namespace Json.Source

/-- The text of a quoted text. -/
def text? : Source → Option String
  | .text ps => (Piece.text ps).toOption
  | _ => none

/-- The fields of an object under their keys. -/
def fields? : Source → Option (List (String × Source))
  | .object fs => fs.mapM fun (k, v) => (Piece.text k).toOption.map fun k => (k, v)
  | _ => none

/-- The one field with this key, if there is one; nothing at all if there are several. -/
def unique? (key : String) (fs : List (String × Source)) : Option (Option Source) :=
  match fs.filter (·.1 = key) with
  | [] => some none
  | [(_, v)] => some (some v)
  | _ => none

/-- The values of the fields of a record with these keys, in this order: from an object, or from an
array that holds no more than them. -/
def record? (keys : List String) : Source → Option (List (Option Source))
  | .array vs =>
    if vs.length ≤ keys.length then
      some (vs.map some ++ List.replicate (keys.length - vs.length) none)
    else none
  | v => do
    let fs ← v.fields?
    keys.mapM fun k => unique? k fs

/-- The name of a variant without content: a text, or an object with it as its only key. -/
def variant? : Source → Option String
  | .object [(k, .null)] => (Piece.text k).toOption
  | v => v.text?

/-- The value of a part that lies within a field of a message. -/
def inner? (v : Source) : Option Json := (v.value (maxDepth - 2)).toOption.map normalize

end Json.Source

open Json (Source)

namespace Payload

/-- A byte, which is a whole number. -/
def byte? : Source → Option UInt8
  | .number parts =>
    match parts.value with
    | .ok (.number (.whole n _)) => if n < 256 then some (UInt8.ofNat n) else none
    | _ => none
  | _ => none

/-- The payload of a kind, with its content if there is one. -/
def ofKind? (kind : String) (content : Option Source) : Option Payload :=
  match kind, content with
  | "empty", none => some .empty
  | "empty", some .null => some .empty
  | "text", some v => v.text?.map .text
  | "json", some v => v.inner?.map .json
  | "binary", some (.array vs) => (vs.mapM byte?).map .binary
  | _, _ => none

def ofSource? : Source → Option Payload
  | .array [kind, content] => do ofKind? (← kind.variant?) (some content)
  | v => do
    let fs ← v.fields?
    let kind ← (← Source.unique? "kind" fs)
    ofKind? (← kind.variant?) (← Source.unique? "content" fs)

end Payload

namespace Message

/-- A field that may be missing or null. -/
def optional? {α : Type} (f : Source → Option α) : Option Source → Option (Option α)
  | none => some none
  | some .null => some none
  | some v => (f v).map some

/-- A field that may be missing. -/
def defaulting? {α : Type} (default : α) (f : Source → Option α) : Option Source → Option α
  | none => some default
  | some v => f v

def headers? (v : Source) : Option (Assoc Json) := do
  let fs ← (← v.fields?).mapM fun (k, v) => v.inner?.map fun v => (k, v)
  return .ofList fs

def headerData? : Source → Option (List String)
  | .array vs => vs.mapM Source.text?
  | _ => none

def ofSource? (v : Source) : Option Message := do
  match ← v.record? ["id", "timestamp", "name", "message_type", "payload", "headers",
      "header_data"] with
  | [id, timestamp, name, type, payload, headers, headerData] =>
    let id ← Uuid.read? (← (← id).text?)
    let timestamp ← Timestamp.read? (← (← timestamp).text?)
    let name ← optional? Source.text? name
    let type ← optional? (fun v => v.variant?.bind MessageType.ofName?) type
    let payload ← defaulting? .empty Payload.ofSource? payload
    let headers ← defaulting? .empty headers? headers
    let headerData ← defaulting? [] headerData? headerData
    return { id, timestamp, name, type, payload, headers, headerData }
  | _ => none

/-- Read the serialized form of a message. -/
def deserialize? (s : String) : Option Message := (Source.ofText s).toOption.bind ofSource?

end Message
end Rehearsal

import Rehearsal.Context
import Rehearsal.Matcher.Basic

/-!
# Validation of messages

A received message is held against a control message. A text of the control message that is a
matcher expression judges what is in its place; everything else has to be equal: the payloads as
documents if the messages are JSON and as texts without the blanks around them if not, headers by
their texts, and the blocks of header data one by one. Headers and blocks that the control message
does not have, and the payload if it has none, are not looked at.
-/

namespace Rehearsal

namespace Scope

def mismatch {α : Type} (m : Mismatch) : Draw α := throw (.validation m)

/-- The first key of some fields that others do not have. -/
def extraKey? (expected actual : List (String × Json)) : Option String :=
  (actual.find? fun (k, _) => (Json.field? k expected).isNone).map (·.1)

/-- The path of a field. -/
def fieldPath (path key : String) : String := path ++ "." ++ key

/-- The path of an item. -/
def itemPath (path : String) (i : Nat) : String := s!"{path}[{i}]"

/-- Ask for equality. -/
def checkEqual (path : String) (expected actual : Json) : Draw Unit :=
  if expected.same actual then return
  else mismatch (.unequal path expected.render actual.render)

mutual
/-- Hold a received document against an expected one. -/
def checkJson (s : Scope) (path : String) (expected actual : Json) : Draw Unit :=
  match expected, actual with
  | .text e, actual =>
    if Matcher.isExpression e then s.judge path actual.plain e
    else checkEqual path (.text e) actual
  | .object es, .object fs =>
    match extraKey? es fs with
    | some key => mismatch (.unexpectedField (fieldPath path key))
    | none => checkFields s path es fs
  | .array es, .array vs =>
    if es.length ≠ vs.length then mismatch (.arrayLength path vs.length es.length)
    else checkItems s path 0 es vs
  | expected, actual => checkEqual path expected actual

/-- Hold fields against expected ones, each of which has to be there. -/
def checkFields (s : Scope) (path : String) (expected actual : List (String × Json)) :
    Draw Unit :=
  match expected with
  | [] => return
  | (key, e) :: es =>
    match Json.field? key actual with
    | none => mismatch (.missingField (fieldPath path key))
    | some v => do
      checkJson s (fieldPath path key) e v
      checkFields s path es actual

/-- Hold items against expected ones in the same places. -/
def checkItems (s : Scope) (path : String) (i : Nat) (expected actual : List Json) :
    Draw Unit :=
  match expected, actual with
  | e :: es, v :: vs => do
    checkJson s (itemPath path i) e v
    checkItems s path (i + 1) es vs
  | _, _ => return
end

/-- A document, or the error that it cannot be read. -/
def readable (fault : Json.Fault → Mismatch) (document : Except Json.Fault Json) : Draw Json :=
  match document with
  | .ok v => return v
  | .error f => mismatch (fault f)

/-- Hold the payload against that of the control message. -/
def checkPayload (s : Scope) (type : MessageType) (received control : Message) : Draw Unit := do
  if control.payload.isEmpty then return
  let expected := control.payload.plain
  let actual := received.payload.plain
  if Matcher.isExpression expected then s.judge "payload" actual expected
  else if type = .json then
    let expected ← readable .controlJson control.payload.document
    let actual ← readable .receivedJson received.payload.document
    s.checkJson "$" expected actual
  else if Text.trimmed actual = Text.trimmed expected then return
  else mismatch (.payload (Text.trimmed expected) (Text.trimmed actual))

/-- Hold one header against an expected value. -/
def checkHeader (s : Scope) (name : String) (expected actual : Json) : Draw Unit :=
  match expected with
  | .text e =>
    if Matcher.isExpression e then s.judge name actual.plain e else compare
  | _ => compare
where
  compare : Draw Unit :=
    if expected.plain = actual.plain then return
    else mismatch (.header name expected.plain actual.plain)

/-- Hold the headers against those of the control message, in their order there. -/
def checkHeaders (s : Scope) (received : Message) : List (String × Json) → Draw Unit
  | [] => return
  | (name, expected) :: rest => do
    match received.header? name with
    | none => mismatch (.missingHeader name)
    | some actual => s.checkHeader name expected actual
    checkHeaders s received rest

/-- Hold a block of header data against an expected one. -/
def checkBlock (s : Scope) (i : Nat) (expected actual : String) : Draw Unit :=
  if Matcher.isExpression expected then s.judge s!"header-data[{i}]" actual expected
  else if Text.trimmed expected = Text.trimmed actual then return
  else mismatch (.headerData i (Text.trimmed expected) (Text.trimmed actual))

/-- Hold blocks of header data against expected ones in the same places. -/
def checkBlocks (s : Scope) (i : Nat) : (expected actual : List String) → Draw Unit
  | e :: es, b :: bs => do
    s.checkBlock i e b
    checkBlocks s (i + 1) es bs
  | _, _ => return

/-- Hold the header data against that of the control message. -/
def checkHeaderData (s : Scope) (expected actual : List String) : Draw Unit := do
  if actual.length < expected.length then
    mismatch (.headerDataCount expected.length actual.length)
  else s.checkBlocks 0 expected actual

/-- Hold a received message against a control message. -/
def validate (s : Scope) (type : MessageType) (received control : Message) : Draw Unit := do
  s.checkPayload type received control
  s.checkHeaders received control.headers.entries
  s.checkHeaderData control.headerData received.headerData

end Scope
end Rehearsal

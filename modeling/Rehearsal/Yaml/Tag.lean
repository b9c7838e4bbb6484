import Rehearsal.Text.Utf8
import Rehearsal.Yaml.Scalar

/-!
# Tags

A tag is a run of bytes, for the escapes in its written form stand for bytes, which need not be a
text together; it ends before the first zero byte. A tag is written with a handle, for which
something else may stand, and a suffix, or between angles. A standard tag names one of the forms
that a scalar may have, and a tag that begins with an exclamation mark is local to its document; the
exclamation mark alone is the name of a local tag.
-/

namespace Rehearsal.Yaml

/-- The tag of a node. -/
structure Tag where
  bytes : Bytes
  deriving DecidableEq, Repr

namespace Tag

/-- The bytes of a text. -/
def ofText (s : String) : Tag := ⟨Text.Utf8.encode s.toList⟩

/-- A standard tag. -/
def standard (name : String) : Tag := ofText ("tag:yaml.org,2002:" ++ name)

/-- Does the tag begin with an exclamation mark? -/
def hasMark (t : Tag) : Bool := t.bytes.head? = some 0x21

/-- The name of a local tag, which has to be a text. -/
def localName? (t : Tag) : Option String :=
  match t.bytes with
  | 0x21 :: name =>
    (Text.Utf8.decode? (if name.isEmpty then t.bytes else name)).toOption.map String.ofList
  | _ => none

end Tag

/-! ### The written form -/

/-- A character of the written form of a tag; commas and square brackets only between angles. -/
def isTagChar (verbatim : Bool) (c : Char) : Bool :=
  isNameChar c || ";/?:@&=+$.!~*'()".contains c || (verbatim && (c = ',' || c = '[' || c = ']'))

/-- How many bytes belong together, from the first one of them. -/
def byteRun? (b : UInt8) : Option Nat :=
  if b < 0x80 then some 1
  else if b &&& 0xE0 = 0xC0 then some 2
  else if b &&& 0xF0 = 0xE0 then some 3
  else if b &&& 0xF8 = 0xF0 then some 4
  else none

/-- The byte that an escape of two hexadecimal digits stands for. -/
def readByte (c : Cursor) : Except Fault (UInt8 × Cursor) :=
  match c.rest with
  | '%' :: a :: b :: _ =>
    match Text.readHex? [a, b] with
    | some n => .ok (UInt8.ofNat n, c.advance 3)
    | none => c.unexpected "did not find URI escaped octet"
  | _ => c.unexpected "did not find URI escaped octet"

/-- As many bytes as follow a first one. -/
def readFollowing : (count : Nat) → Cursor → Except Fault (Bytes × Cursor)
  | 0, c => .ok ([], c)
  | n + 1, c => do
    let (b, d) ← readByte c
    if b &&& 0xC0 = 0x80 then
      let (bs, d) ← readFollowing n d
      return (b :: bs, d)
    else c.unexpected "found an incorrect trailing UTF-8 octet"

/-- The bytes of escapes that belong together. -/
def readBytes (c : Cursor) : Except Fault (Bytes × Cursor) := do
  let (b, d) ← readByte c
  match byteRun? b with
  | none => c.unexpected "found an incorrect leading UTF-8 octet"
  | some n =>
    let (bs, d) ← readFollowing (n - 1) d
    return (b :: bs, d)

/-- The characters and escapes of a tag. -/
def readTagChars (verbatim : Bool) : (fuel : Nat) → Cursor → Except Fault (Bytes × Cursor)
  | 0, c => .ok ([], c)
  | fuel + 1, c =>
    match c.peek? with
    | none => .ok ([], c)
    | some ch =>
      if ch = '%' then do
        let (bs, c) ← readBytes c
        let (rest, c) ← readTagChars verbatim fuel c
        return (bs ++ rest, c)
      else if isTagChar verbatim ch then
        (readTagChars verbatim fuel c.next).map fun (rest, c) => (UInt8.ofNat ch.toNat :: rest, c)
      else .ok ([], c)

/-- The part of a tag behind the exclamation mark of `head`, whose characters have been read. Where
nothing has been read something must follow; the part ends before its first zero byte. -/
def readTagText (verbatim : Bool) (head : List Char) (c : Cursor) :
    Except Fault (Bytes × Cursor) := do
  let (bs, d) ← readTagChars verbatim c.rest.length c
  if head.isEmpty && bs.isEmpty then c.unexpected "did not find expected tag URI"
  else return ((Text.Utf8.encode (head.drop 1) ++ bs).takeWhile (· ≠ 0), d)

/-- An exclamation mark, a name, and another exclamation mark if there is one. -/
def readHandle (c : Cursor) : Except Fault (List Char × Cursor) :=
  if c.isAt '!' then
    let (name, d) := c.next.takeWhile isNameChar
    if d.isAt '!' then .ok ('!' :: name ++ ['!'], d.next) else .ok ('!' :: name, d)
  else c.unexpected "did not find expected '!'"

/-- Read a tag, which begins with an exclamation mark: its handle, which is empty where nothing
stands for it, and the rest of it. -/
def readTag (inFlow : Bool) (c : Cursor) : Except Fault (String × Bytes × Cursor) := do
  let (handle, suffix, c) ←
    if c.next.isAt '<' then do
      let (suffix, d) ← readTagText true [] (c.advance 2)
      if d.isAt '>' then pure ("", suffix, d.next)
      else d.unexpected "did not find the expected '>'"
    else do
      let (handle, d) ← readHandle c
      if 1 < handle.length && handle.getLast? = some '!' then
        let (suffix, d) ← readTagText false [] d
        pure (String.ofList handle, suffix, d)
      else
        let (suffix, d) ← readTagText false handle d
        if suffix.isEmpty then pure ("", (Tag.ofText "!").bytes, d) else pure ("!", suffix, d)
  if (inFlow && c.isAt ',') || endsWord c.rest then return (handle, suffix, c)
  else c.unexpected "did not find expected whitespace or line break"

end Rehearsal.Yaml

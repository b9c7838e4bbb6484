import Rehearsal.Assoc
import Rehearsal.Charset

/-!
# Resources

A resource is the content of a file: bytes, and the charset that was declared for them if one was.
It is read in the charset that is asked for, else in the declared one, else in the one that its
first bytes tell, else in UTF-8. The first bytes tell a charset by a byte order mark or by the
encoding of an XML declaration. As that declaration can be read byte by byte, a charset of wider
units in it is not believed.

A `Loader` finds the resource with a given path, in memory or among files.
-/

namespace Rehearsal

/-- The content of a file. -/
structure Resource where
  bytes : Bytes
  charset : Option String := none
  deriving DecidableEq, Repr

namespace Resource

/-! ### Telling the charset -/

/-- The bytes of a text of ASCII. -/
def ascii (s : String) : Bytes := Text.Utf8.encode s.toList

/-- The bytes before the first place of two given ones, or all. -/
def upTo (a b : UInt8) : Bytes → Bytes
  | x :: y :: r => if x = a ∧ y = b then [] else x :: upTo a b (y :: r)
  | r => r

/-- Drop blanks, each read as UTF-8; `fuel` bounds how many. -/
def dropBlanks : (fuel : Nat) → Bytes → Bytes
  | 0, bs => bs
  | fuel + 1, bs =>
    match Text.Utf8.readChar bs with
    | .ok (c, r) => if Text.isBlank c then dropBlanks fuel r else bs
    | .error _ => bs

/-- A byte of the name of an encoding. -/
def isNameByte (b : UInt8) : Bool :=
  let c := Char.ofNat b.toNat
  b < 0x80 && (c.isAlphanum || c = '.' || c = '_' || c = '-')

def isQuote (b : UInt8) : Bool := b = 0x22 || b = 0x27

/-- The quoted name behind the word `encoding` and an equals sign. -/
def quotedName? (bs : Bytes) : Option Bytes :=
  let bs := dropBlanks bs.length bs
  match bs with
  | 0x3D :: r =>
    match dropBlanks r.length r with
    | q :: r =>
      if isQuote q then
        match r.takeWhile isNameByte, r.dropWhile isNameByte with
        | b :: bs, q :: _ => if isQuote q then some (b :: bs) else none
        | _, _ => none
      else none
    | [] => none
  | _ => none

/-- The first name of an encoding in these bytes. -/
def findEncoding? : Bytes → Option Bytes
  | [] => none
  | b :: bs =>
    match (Charset.behind? (ascii "encoding") (b :: bs)).bind quotedName? with
    | some name => some name
    | none => findEncoding? bs

/-- Does the name stand for a charset of units wider than a byte? -/
def isWide (name : String) : Bool :=
  let upper := (Text.asciiUpper name).toList
  ["UTF-16", "UTF16", "UTF-32", "UTF32", "UCS-"].any fun w => Text.startsWith w.toList upper

/-- The charset that the first bytes tell. -/
def detect? (bs : Bytes) : Option String :=
  if (Charset.behind? Charset.markUtf8 bs).isSome then some "UTF-8"
  else if (Charset.behind? Charset.markLittle bs).isSome then some "UTF-16LE"
  else if (Charset.behind? Charset.markBig bs).isSome then some "UTF-16BE"
  else if (Charset.behind? (ascii "<?xml") bs).isSome then
    let declared := findEncoding? (upTo 0x3F 0x3E bs)
    (declared.map fun name => String.ofList (Charset.bytewise name)).filter (!isWide ·)
  else none

/-! ### Reading -/

/-- The charset that counts, where `asked` is the one that is asked for. -/
def effectiveCharset (r : Resource) (asked : Option String) : String :=
  ((asked.or r.charset).or (detect? r.bytes)).getD "UTF-8"

/-- The text of a resource. -/
def text (r : Resource) (asked : Option String := none) : Except Error String :=
  let charset := r.effectiveCharset asked
  match Charset.decode charset r.bytes with
  | .ok s => .ok s
  | .error cause => .error (.encoding charset cause)

end Resource

/-! ### Loaders -/

/-- What is read under a path, if there is a file. -/
abbrev FileReader := String → Option Bytes

/-- Where resources come from. -/
inductive Loader
  /-- Resources kept under their paths. -/
  | memory (resources : Assoc Resource)
  /-- Files, relative paths being taken from a base directory if there is one. -/
  | files (reader : FileReader) (base : Option String)

namespace Loader

/-- A path without the mark of a file in front. -/
def withoutScheme (path : String) : String :=
  match Text.strip? "file:".toList path.toList with
  | some r => String.ofList r
  | none => path

/-- A path taken from a directory; an absolute one stands for itself. -/
def join (base path : String) : String :=
  if Text.startsWith ['/'] path.toList then path
  else if base = "" ∨ Text.endsWith ['/'] base.toList then base ++ path
  else base ++ "/" ++ path

/-- The path of the file that is read for a path. -/
def fullPath (base : Option String) (path : String) : String :=
  let path := withoutScheme path
  match base with
  | some base => join base path
  | none => path

/-- The resource with a path. -/
def load (l : Loader) (path : String) : Except Error Resource :=
  match l with
  | .memory resources =>
    match (resources.get? (withoutScheme path)).or (resources.get? path) with
    | some r => .ok r
    | none => .error (.resource path)
  | .files reader base =>
    let full := fullPath base path
    match reader full with
    | some bytes => .ok { bytes }
    | none => .error (.resource full)

end Loader
end Rehearsal

import Rehearsal.Error
import Rehearsal.Text.Case
import Rehearsal.Text.Utf8

/-!
# Charsets

The charsets that texts can be read from: UTF-8, UTF-16 with a byte order mark or big-endian,
UTF-16 of either fixed order, Latin 1 and ASCII. Their names are taken in any case and with low
lines for hyphens. `decode` reads bytes in a charset, after the charset's own byte order mark if
there is one, or tells at which byte behind the mark they stop being text; `encode?` writes a text
without a mark if the charset has all its characters.
-/

namespace Rehearsal

inductive Charset
  | utf8
  | utf16
  | utf16le
  | utf16be
  | latin1
  | ascii
  deriving DecidableEq, Repr

namespace Charset

/-- The name of a charset in the words of an error. -/
def name : Charset → String
  | .utf8 => "UTF-8"
  | .utf16 => "UTF-16"
  | .utf16le => "UTF-16LE"
  | .utf16be => "UTF-16BE"
  | .latin1 => "ISO-8859-1"
  | .ascii => "US-ASCII"

/-- The charset with this name. -/
def ofName? (name : String) : Option Charset :=
  match String.ofList ((Text.asciiUpper name).toList.map fun c => if c = '_' then '-' else c) with
  | "UTF-8" | "UTF8" => some .utf8
  | "UTF-16" | "UTF16" => some .utf16
  | "UTF-16LE" => some .utf16le
  | "UTF-16BE" => some .utf16be
  | "ISO-8859-1" | "ISO8859-1" | "LATIN1" | "LATIN-1" => some .latin1
  | "US-ASCII" | "ASCII" => some .ascii
  | _ => none

/-! ### Byte order marks -/

def markUtf8 : Bytes := [0xEF, 0xBB, 0xBF]
def markLittle : Bytes := [0xFF, 0xFE]
def markBig : Bytes := [0xFE, 0xFF]

/-- The bytes behind a mark, if they begin with it. -/
def behind? : (mark bs : Bytes) → Option Bytes
  | [], bs => some bs
  | _ :: _, [] => none
  | m :: ms, b :: bs => if m = b then behind? ms bs else none

/-- The bytes behind a mark, or all if there is none. -/
def withoutMark (mark bs : Bytes) : Bytes := (behind? mark bs).getD bs

/-! ### UTF-16 -/

/-- The units of 16 bits of an even number of bytes. -/
def units (little : Bool) : Bytes → List Nat
  | a :: b :: r =>
    (if little then a.toNat + 256 * b.toNat else 256 * a.toNat + b.toNat) :: units little r
  | _ => []

/-- The text of units of 16 bits, or the byte at which it stops being one; `offset` bytes stand
before. -/
def ofUnits (offset : Nat) : List Nat → Except Nat (List Char)
  | [] => .ok []
  | u :: us =>
    if 0xD800 ≤ u ∧ u < 0xDC00 then
      match us with
      | v :: vs =>
        if 0xDC00 ≤ v ∧ v < 0xE000 then
          (ofUnits (offset + 4) vs).map
            (Char.ofNat (0x10000 + (u - 0xD800) * 0x400 + (v - 0xDC00)) :: ·)
        else .error offset
      | [] => .error offset
    else if 0xDC00 ≤ u ∧ u < 0xE000 then .error offset
    else (ofUnits (offset + 2) us).map (Char.ofNat u :: ·)

/-- Read UTF-16. An odd byte at the end is found before anything else. -/
def decode16 (little : Bool) (bs : Bytes) : Except Nat (List Char) :=
  if bs.length % 2 = 0 then ofUnits 0 (units little bs) else .error (bs.length - 1)

/-- The units of 16 bits of a character. -/
def unitsOf (c : Char) : List Nat :=
  if c.toNat < 0x10000 then [c.toNat]
  else [0xD800 + (c.toNat - 0x10000) / 0x400, 0xDC00 + (c.toNat - 0x10000) % 0x400]

/-- The two bytes of a unit. -/
def unitBytes (little : Bool) (u : Nat) : Bytes :=
  if little then [UInt8.ofNat u, UInt8.ofNat (u / 256)] else [UInt8.ofNat (u / 256), UInt8.ofNat u]

def encode16 (little : Bool) (cs : List Char) : Bytes :=
  (cs.flatMap unitsOf).flatMap (unitBytes little)

/-! ### All charsets -/

/-- The character of each byte. -/
def bytewise (bs : Bytes) : List Char := bs.map fun b => Char.ofNat b.toNat

/-- Read bytes in a charset, or tell where they stop being text. -/
def decodeChars (charset : Charset) (bs : Bytes) : Except Nat (List Char) :=
  match charset with
  | .utf8 => Text.Utf8.decode? (withoutMark markUtf8 bs)
  | .utf16 =>
    match behind? markLittle bs with
    | some r => decode16 true r
    | none => decode16 false (withoutMark markBig bs)
  | .utf16le => decode16 true (withoutMark markLittle bs)
  | .utf16be => decode16 false (withoutMark markBig bs)
  | .latin1 => .ok (bytewise bs)
  | .ascii =>
    match bs.findIdx? (fun b => 0x80 ≤ b) with
    | some offset => .error offset
    | none => .ok (bytewise bs)

/-- Write a text without a mark, if the charset has all its characters. -/
def encode? (charset : Charset) (cs : List Char) : Option Bytes :=
  match charset with
  | .utf8 => some (Text.Utf8.encode cs)
  | .utf16 | .utf16be => some (encode16 false cs)
  | .utf16le => some (encode16 true cs)
  | .latin1 => if cs.all (·.toNat < 256) then some (cs.map fun c => UInt8.ofNat c.toNat) else none
  | .ascii => if cs.all (·.toNat < 128) then some (cs.map fun c => UInt8.ofNat c.toNat) else none

/-- Read bytes in the charset with this name. -/
def decode (name : String) (bs : Bytes) : Except DecodeFault String :=
  match ofName? name with
  | none => .error (.unsupportedCharset name)
  | some charset =>
    match charset.decodeChars bs with
    | .ok cs => .ok (String.ofList cs)
    | .error offset => .error (.malformed charset.name offset)

end Charset
end Rehearsal

import Rehearsal.Double.Decimal
import Rehearsal.Text.Hexadecimal

/-!
# JSON texts as they are written

`Source.ofText` reads a text by the grammar alone: one value with blanks around it, nested as deeply
as it may be. Numbers are kept as their digits, quoted texts as their characters and escapes, and
objects as their fields in order. What the parts of a source mean, and whether they mean anything,
is not asked here, so that a part that nobody needs may be meaningless.
-/

namespace Rehearsal.Json

/-- Why a text is no JSON value. -/
inductive Fault
  | endOfText
  | unexpected (c : Char)
  | number
  | numberOutOfRange
  | controlCharacter
  | escape
  | loneSurrogate
  | tooDeep
  deriving DecidableEq, Repr

def Fault.message : Fault → String
  | .endOfText => "the text ends inside a value"
  | .unexpected c => s!"unexpected character '{c}'"
  | .number => "invalid number"
  | .numberOutOfRange => "number out of range"
  | .controlCharacter => "control character inside a string"
  | .escape => "invalid escape"
  | .loneSurrogate => "lone surrogate in an escape"
  | .tooDeep => "nested too deeply"

/-- The parts of a number as they stand in the text. -/
structure NumberParts where
  negative : Bool
  whole : List Char
  /-- The digits behind the point, if there is a point. -/
  fraction : Option (List Char)
  exponent : Option Int

/-- A part of a quoted text. -/
inductive Piece
  /-- A character, or an escape of one letter. -/
  | char (c : Char)
  /-- An escape of four hexadecimal digits. -/
  | unit (n : Nat)

/-- A value as it is written. -/
inductive Source
  | null
  | bool (b : Bool)
  | number (parts : NumberParts)
  | text (pieces : List Piece)
  | array (items : List Source)
  | object (fields : List (List Piece × Source))

/-- What a reader gives: what it has read, and the rest of the text. -/
abbrev Read (α : Type) := Except Fault (α × List Char)

def isBlank (c : Char) : Bool := c = ' ' || c = '\n' || c = '\t' || c = '\r'

def skipBlanks (cs : List Char) : List Char := cs.dropWhile isBlank

/-- The fault of what stands in a place where it may not. -/
def unexpected {α : Type} : List Char → Except Fault α
  | [] => .error .endOfText
  | c :: _ => .error (.unexpected c)

/-! ### Texts -/

/-- The character that an escape of one letter stands for. -/
def simpleEscape? (c : Char) : Option Char :=
  if c = '"' ∨ c = '\\' ∨ c = '/' then some c
  else if c = 'b' then some (Char.ofNat 8)
  else if c = 'f' then some (Char.ofNat 12)
  else if c = 'n' then some '\n'
  else if c = 'r' then some '\r'
  else if c = 't' then some '\t'
  else none

/-- The inside of a text up to its closing quote. -/
def readQuoted : List Char → Read (List Piece)
  | [] => .error .endOfText
  | '"' :: r => .ok ([], r)
  | '\\' :: 'u' :: a :: b :: c :: d :: r =>
    match Text.readHex? [a, b, c, d] with
    | none => .error .escape
    | some n => (readQuoted r).map fun (ps, r) => (.unit n :: ps, r)
  | '\\' :: c :: r =>
    match simpleEscape? c with
    | none => .error .escape
    | some ch => (readQuoted r).map fun (ps, r) => (.char ch :: ps, r)
  | c :: r =>
    if c.toNat < 32 then .error .controlCharacter
    -- an escape that the text ends in
    else if c = '\\' then .error .endOfText
    else (readQuoted r).map fun (ps, r) => (.char c :: ps, r)

/-! ### Numbers -/

/-- The digits before the point: a single zero, or digits that do not start with one. -/
def readWhole (cs : List Char) : Read (List Char) :=
  match Double.spanDigits cs with
  | ([], r) => unexpected r
  | (['0'], r) => .ok (['0'], r)
  -- more digits behind a leading zero
  | ('0' :: _, _) => .error .number
  | (ds, r) => .ok (ds, r)

/-- The digits behind the point. -/
def readFraction : List Char → Read (Option (List Char))
  | '.' :: r =>
    match Double.spanDigits r with
    | ([], []) => .error .endOfText
    | ([], _) => .error .number
    | (ds, r) => .ok (some ds, r)
  | r => .ok (none, r)

/-- The power of ten behind its mark. -/
def readPower : List Char → Read (Option Int)
  | c :: r =>
    if c = 'e' ∨ c = 'E' then
      let (negative, r) := match r with
        | '-' :: r => (true, r)
        | '+' :: r => (false, r)
        | r => (false, r)
      match Double.spanDigits r with
      | ([], []) => .error .endOfText
      | ([], _) => .error .number
      | (ds, r) =>
        let n : Int := Decimal.valueOf 0 ds
        .ok (some (if negative then -n else n), r)
    else .ok (none, c :: r)
  | [] => .ok (none, [])

/-- A number without its sign. -/
def readMagnitude (negative : Bool) (cs : List Char) : Except Fault (Source × List Char) := do
  let (whole, r) ← readWhole cs
  let (fraction, r) ← readFraction r
  let (exponent, r) ← readPower r
  return (.number { negative, whole, fraction, exponent }, r)

/-! ### Values -/

/-- A literal word with its value. -/
def readWord (word : List Char) (value : Source) (cs : List Char) : Read Source :=
  match Text.strip? word cs with
  | some r => .ok (value, r)
  | none => unexpected cs

namespace Source

mutual
/-- A value. -/
def read : (fuel : Nat) → List Char → Read Source
  | 0, _ => .error .endOfText
  | fuel + 1, cs =>
    match skipBlanks cs with
    | '"' :: r => (readQuoted r).map fun (ps, r) => (.text ps, r)
    | '[' :: r =>
      match skipBlanks r with
      | ']' :: r => .ok (.array [], r)
      | r => (readItems fuel r).map fun (vs, r) => (.array vs, r)
    | '{' :: r =>
      match skipBlanks r with
      | '}' :: r => .ok (.object [], r)
      | r => (readFields fuel r).map fun (fs, r) => (.object fs, r)
    | '-' :: r => readMagnitude true r
    | 'n' :: r => readWord "null".toList .null ('n' :: r)
    | 't' :: r => readWord "true".toList (.bool true) ('t' :: r)
    | 'f' :: r => readWord "false".toList (.bool false) ('f' :: r)
    | r => readMagnitude false r

/-- The items of an array up to its closing bracket. -/
def readItems : (fuel : Nat) → List Char → Except Fault (List Source × List Char)
  | 0, _ => .error .endOfText
  | fuel + 1, cs => do
    let (v, r) ← read fuel cs
    match skipBlanks r with
    | ']' :: r => return ([v], r)
    | ',' :: r =>
      let (vs, r) ← readItems fuel r
      return (v :: vs, r)
    | r => unexpected r

/-- The fields of an object up to its closing brace. -/
def readFields : (fuel : Nat) → List Char →
    Except Fault (List (List Piece × Source) × List Char)
  | 0, _ => .error .endOfText
  | fuel + 1, cs => do
    match skipBlanks cs with
    | '"' :: r =>
      let (k, r) ← readQuoted r
      match skipBlanks r with
      | ':' :: r =>
        let (v, r) ← read fuel r
        match skipBlanks r with
        | '}' :: r => return ([(k, v)], r)
        | ',' :: r =>
          let (fs, r) ← readFields fuel r
          return ((k, v) :: fs, r)
        | r => unexpected r
      | r => unexpected r
    | r => unexpected r
end

/-- Read a text as one value. Every step of the readers takes a character, so their fuel never runs
out. -/
def ofChars (cs : List Char) : Except Fault Source := do
  let (v, r) ← read (2 * cs.length + 2) cs
  match skipBlanks r with
  | [] => return v
  | r => unexpected r

def ofText (s : String) : Except Fault Source := ofChars s.toList

end Source
end Rehearsal.Json

import Rehearsal.Json.Printer
import Rehearsal.Json.Source

/-!
# Reading JSON

`parse` reads a text into the normal form of its value. A value may be nested 127 levels deep, and
the halves of a surrogate pair may only stand together.

A number without fraction and exponent that fits 64 bits is a whole number. Every other number is a
double: of its digits those count that together fit 64 bits, read as a whole number; this is made a
double and then multiplied with, or divided by, the power of ten, each step being rounded. A number
beyond the range of doubles is refused.
-/

namespace Rehearsal.Json

/-! ### Texts -/

def isHighSurrogate (n : Nat) : Bool := 0xD800 ≤ n && n < 0xDC00

def isLowSurrogate (n : Nat) : Bool := 0xDC00 ≤ n && n < 0xE000

/-- The characters that pieces stand for; two surrogates together are one. -/
def Piece.decode : List Piece → Except Fault (List Char)
  | [] => .ok []
  | .char c :: r => (decode r).map (c :: ·)
  | .unit n :: r =>
    if isLowSurrogate n then .error .loneSurrogate
    else if isHighSurrogate n then
      match r with
      | .unit low :: r =>
        if isLowSurrogate low then
          (decode r).map (Char.ofNat (0x10000 + (n - 0xD800) * 0x400 + (low - 0xDC00)) :: ·)
        else .error .loneSurrogate
      | _ => .error .loneSurrogate
    else (decode r).map (Char.ofNat n :: ·)

/-- The text that pieces stand for. -/
def Piece.text (ps : List Piece) : Except Fault String := (decode ps).map String.ofList

/-! ### Numbers -/

/-- Append digits to `n` as long as the number fits 64 bits; with the digits that are left. -/
def takeDigits (n : Nat) : List Char → Nat × List Char
  | [] => (n, [])
  | c :: cs =>
    let m := 10 * n + (c.toNat - '0'.toNat)
    if m < 1 <<< 64 then takeDigits m cs else (n, c :: cs)

/-- The double of a whole number times a power of ten, each step rounded; none past the range. -/
def scale? (negative : Bool) (n : Nat) (e : Int) : Option Double :=
  let f := Double.ofRatio false n 1
  let signed (d : Double) := if negative then d.neg else d
  if 0 ≤ e then
    if n = 0 then some (Double.zero negative)
    else if 308 < e then none
    else
      let d := f.mul (Double.ofDecimal false ⟨1, e⟩)
      if d.isFinite then some (signed d) else none
  else if -308 ≤ e then some (signed (f.div (Double.ofDecimal false ⟨1, -e⟩)))
  else
    let f := f.div (Double.ofDecimal false ⟨1, 308⟩)
    if -616 ≤ e then some (signed (f.div (Double.ofDecimal false ⟨1, -e - 308⟩)))
    else some (Double.zero negative)

/-- The value of a number from its parts. -/
def NumberParts.value (p : NumberParts) : Except Fault Json :=
  let n := Decimal.valueOf 0 p.whole
  match p.fraction, p.exponent with
  | none, none =>
    if n < 1 <<< 64 then .ok (ofMagnitude p.negative n)
    else
      let (m, rest) := takeDigits 0 p.whole
      double p.negative m rest.length
  | fraction, exponent =>
    let (m, rest) := takeDigits 0 p.whole
    let fs := fraction.getD []
    let (m', rest') := takeDigits m fs
    double p.negative m' (rest.length - (fs.length - rest'.length : Nat) + exponent.getD 0)
where
  double (negative : Bool) (n : Nat) (e : Int) : Except Fault Json :=
    match scale? negative n e with
    | some d => .ok (ofDouble d)
    | none => .error .numberOutOfRange

/-! ### Values -/

namespace Source

mutual
/-- The value of a source, its objects as they stand; `depth` is how many levels may be opened. -/
def value : (depth : Nat) → Source → Except Fault Json
  | _, .null => .ok .null
  | _, .bool b => .ok (.bool b)
  | _, .number parts => parts.value
  | _, .text ps => (Piece.text ps).map .text
  | 0, .array _ => .error .tooDeep
  | 0, .object _ => .error .tooDeep
  | depth + 1, .array items => (itemValues depth items).map .array
  | depth + 1, .object fields => (fieldValues depth fields).map .object

def itemValues : (depth : Nat) → List Source → Except Fault (List Json)
  | _, [] => .ok []
  | depth, v :: vs => do
    let v ← value depth v
    return v :: (← itemValues depth vs)

def fieldValues : (depth : Nat) → List (List Piece × Source) →
    Except Fault (List (String × Json))
  | _, [] => .ok []
  | depth, (k, v) :: fs => do
    let k ← Piece.text k
    let v ← value depth v
    return (k, v) :: (← fieldValues depth fs)
end

end Source

/-- How deep a value may be nested. -/
def maxDepth : Nat := 127

/-- Read a text as one value in normal form. -/
def parse (s : String) : Except Fault Json := do
  let v ← Source.ofText s
  return (← v.value maxDepth).normalize

end Rehearsal.Json

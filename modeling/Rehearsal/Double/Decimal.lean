import Rehearsal.Double.Arithmetic
import Rehearsal.Text.Search

/-!
# Decimals and how doubles are read

A decimal is a natural number of digits and a power of ten. `ofDecimal` is the double nearest to
its value. `read?` reads the written form of a double: an optional sign, then `inf`, `infinity` or
`nan` in any case, or digits with an optional point among or around them and an optional exponent.
At least one digit must stand before the exponent and, if there is an exponent mark, after it.
-/

namespace Rehearsal

/-- The value `digits · 10 ^ exponent`. -/
structure Decimal where
  digits : Nat
  exponent : Int
  deriving DecidableEq, Repr

namespace Decimal

/-- The digits of a natural number in base ten, the leading one first. -/
def digitsOf (n : Nat) : List Char := Nat.toDigits 10 n

/-- The value of a list of decimal digits read from left to right, on top of `acc`. -/
def valueOf (acc : Nat) (ds : List Char) : Nat :=
  ds.foldl (fun n c => 10 * n + (c.toNat - '0'.toNat)) acc

/-- Move zeros at the end of the digits into the exponent. -/
def strip (fuel : Nat) (d : Decimal) : Decimal :=
  match fuel with
  | 0 => d
  | fuel + 1 =>
    if d.digits ≠ 0 ∧ d.digits % 10 = 0 then strip fuel ⟨d.digits / 10, d.exponent + 1⟩ else d

end Decimal

namespace Double

/-- The double nearest to a decimal. The two tests in front decide the values that are beyond the
range whatever their digits are, so no large power is computed for them. -/
def ofDecimal (negative : Bool) (d : Decimal) : Double :=
  if d.digits = 0 then zero negative
  else if 0 ≤ d.exponent then
    if 1024 ≤ (d.digits.log2 : Int) + 3 * d.exponent then .infinity negative
    else ofRatio negative (d.digits * Nat.pow 10 d.exponent.toNat) 1
  else
    if (d.digits.log2 : Int) + 1 + 3 * d.exponent < -1076 then zero negative
    else ofRatio negative d.digits (Nat.pow 10 (-d.exponent).toNat)

/-! ### Reading -/

/-- The leading digits of a text and the rest of it. -/
def spanDigits (cs : List Char) : List Char × List Char := cs.span Char.isDigit

/-- The value of an exponent: an optional sign and at least one digit, up to the end. -/
def readExponent? (cs : List Char) : Option Int :=
  let (negative, ds) := match cs with
    | '-' :: r => (true, r)
    | '+' :: r => (false, r)
    | r => (false, r)
  if ds.isEmpty || !ds.all Char.isDigit then none
  else
    let n : Int := Decimal.valueOf 0 ds
    some (if negative then -n else n)

/-- Read a decimal without sign. -/
def readDecimal? (cs : List Char) : Option Decimal :=
  let (whole, r) := spanDigits cs
  let (fraction, r) := match r with
    | '.' :: r => spanDigits r
    | r => ([], r)
  if whole.isEmpty && fraction.isEmpty then none
  else
    let digits := Decimal.valueOf 0 (whole ++ fraction)
    let shift : Int := -fraction.length
    match r with
    | [] => some ⟨digits, shift⟩
    | c :: r =>
      if c = 'e' ∨ c = 'E' then (readExponent? r).map fun e => ⟨digits, shift + e⟩ else none

/-- Read a double without sign. -/
def readMagnitude? (negative : Bool) (cs : List Char) : Option Double :=
  let word := cs.map Char.toLower
  if word = "inf".toList ∨ word = "infinity".toList then some (.infinity negative)
  else if word = "nan".toList then some .nan
  else (readDecimal? cs).map (ofDecimal negative)

/-- Read the written form of a double. -/
def read? (s : String) : Option Double :=
  match s.toList with
  | '-' :: r => readMagnitude? true r
  | '+' :: r => readMagnitude? false r
  | r => readMagnitude? false r

end Double
end Rehearsal

import Rehearsal.Double.Decimal

/-!
# The shortest digits of a double

`shortest` is the decimal with the fewest digits that reads back as the double: on the grids of one
power of ten after the other, from coarse to fine, it tries the two neighbours of the exact value
and takes the first grid on which one of them reads back, and of two that do the nearer. Seventeen
digits are always enough; the exact expansion stands behind the search so that it needs no limit.

`Decimal.positional` writes a decimal with all its places and never an exponent;
`Decimal.scientific` writes one digit, the point, the other digits and the power of ten.
-/

namespace Rehearsal

namespace Double

/-- The exact value of a finite double as a decimal: a unit of `2 ^ -1074` is `5 ^ 1074` units of
`10 ^ -1074`. -/
def exact (d : Double) : Decimal := Decimal.strip 1100 ⟨d.magnitude * Nat.pow 5 1074, -1074⟩

/-- A power of ten above the magnitude of the double. -/
def coarsest (d : Double) : Int :=
  match d with
  | .finite _ m q _ => ((m.log2 : Int) + q + 1) * 30103 / 100000 + 2
  | _ => 0

/-- The neighbours of `num / den` among the multiples of `10 ^ p`, the nearer one first. -/
def neighbours (num den : Nat) (p : Int) : List Decimal :=
  let (n, d) :=
    if 0 ≤ p then (num, den * Nat.pow 10 p.toNat) else (num * Nat.pow 10 (-p).toNat, den)
  let low : Decimal := Decimal.strip 20 ⟨n / d, p⟩
  let high : Decimal := Decimal.strip 20 ⟨n / d + 1, p⟩
  let r := n % d
  if 2 * r < d ∨ (2 * r = d ∧ n / d % 2 = 0) then [low, high] else [high, low]

/-- The neighbours on the grids from `10 ^ p` down, `fuel` of them, coarse ones first. -/
def candidates (num den : Nat) (p : Int) : Nat → List Decimal
  | 0 => []
  | fuel + 1 => neighbours num den p ++ candidates num den (p - 1) fuel

/-- The fewest digits that read back, without the sign. -/
def shortest (d : Double) : Decimal :=
  if d.magnitude = 0 then ⟨0, 0⟩
  else
    ((candidates d.magnitude unitsPerOne d.coarsest 22).find?
      (fun c => ofDecimal d.isNegative c = d)).getD d.exact

end Double

namespace Decimal

/-- Write a decimal with all its places. `pointAlways` asks for a fraction even of a whole value. -/
def positional (d : Decimal) (pointAlways : Bool) : List Char :=
  let ds := digitsOf d.digits
  if 0 ≤ d.exponent then
    ds ++ List.replicate (if d.digits = 0 then 0 else d.exponent.toNat) '0'
      ++ (if pointAlways then ['.', '0'] else [])
  else
    let places := (-d.exponent).toNat
    if places < ds.length then
      ds.take (ds.length - places) ++ '.' :: ds.drop (ds.length - places)
    else
      '0' :: '.' :: List.replicate (places - ds.length) '0' ++ ds

/-- Write a decimal as one digit, the others behind a point, and the power of ten with its sign. -/
def scientific (d : Decimal) : List Char :=
  let ds := digitsOf d.digits
  let power : Int := d.exponent + (ds.length - 1 : Nat)
  let tail := ds.drop 1
  ds.take 1 ++ (if tail.isEmpty then [] else '.' :: tail)
    ++ 'e' :: (if power < 0 then '-' else '+') :: digitsOf power.natAbs

end Decimal

namespace Double

/-- The plain text of a double: its shortest digits with all places, never an exponent. -/
def plainText (d : Double) : String :=
  match d with
  | .nan => "NaN"
  | .infinity s => if s then "-inf" else "inf"
  | .finite s .. =>
    String.ofList ((if s then ['-'] else []) ++ d.shortest.positional false)

end Double
end Rehearsal

/-!
# Doubles

A double is a number of the 64-bit binary format: not a number, an infinity, or `± m · 2 ^ q` with
`m` below `2 ^ 53`. The pair `(m, q)` is canonical: the significand has 53 bits unless the exponent
is the least one, so every value has one form, zero with its two signs apart. Every finite double
is a whole number of units of `2 ^ -1074` (`units`), which makes order and sum integer arithmetic.

`ofRatio` rounds the exact quotient of two natural numbers to the nearest double; a tie goes to the
even significand, and what lies past the last double is an infinity.
-/

namespace Rehearsal

/-- The canonical pairs of significand and exponent. -/
def Double.Canonical (m : Nat) (q : Int) : Prop :=
  m < 1 <<< 53 ∧ -1074 ≤ q ∧ q ≤ 971 ∧ (1 <<< 52 ≤ m ∨ q = -1074)

instance (m : Nat) (q : Int) : Decidable (Double.Canonical m q) :=
  inferInstanceAs (Decidable (_ ∧ _ ∧ _ ∧ _))

/-- A number of the 64-bit binary floating-point format. -/
inductive Double
  | nan
  | infinity (negative : Bool)
  /-- The value `± m · 2 ^ q`. -/
  | finite (negative : Bool) (m : Nat) (q : Int) (canonical : Double.Canonical m q)
  deriving DecidableEq

namespace Double

/-- Zero, with its sign. -/
def zero (negative : Bool) : Double :=
  .finite negative 0 (-1074) (by simp [Canonical])

instance : Inhabited Double := ⟨zero false⟩

def isNegative : Double → Bool
  | .nan => false
  | .infinity s => s
  | .finite s _ _ _ => s

def isNaN : Double → Bool
  | .nan => true
  | _ => false

def isInfinite : Double → Bool
  | .infinity _ => true
  | _ => false

def isFinite : Double → Bool
  | .finite .. => true
  | _ => false

/-- The value with the opposite sign. -/
def neg : Double → Double
  | .nan => .nan
  | .infinity s => .infinity !s
  | .finite s m q h => .finite (!s) m q h

/-- The value without its sign. -/
def abs : Double → Double
  | .nan => .nan
  | .infinity _ => .infinity false
  | .finite _ m q h => .finite false m q h

/-! ### Rounding a quotient -/

/-- The natural number nearest to `num / den`; a tie goes to the even one. -/
def nearest (num den : Nat) : Nat :=
  let n := num / den
  let r := num % den
  if 2 * r < den then n
  else if den < 2 * r then n + 1
  else if n % 2 = 0 then n else n + 1

/-- The quotient `num / den` in units of `2 ^ q`, again as a quotient. -/
def inUnits (q : Int) (num den : Nat) : Nat × Nat :=
  if 0 ≤ q then (num, den <<< q.toNat) else (num <<< (-q).toNat, den)

/-- The double of these parts; an exponent past the last one means an infinity. -/
def assemble (negative : Bool) (m : Nat) (q : Int) : Double :=
  if h : Canonical m q then .finite negative m q h else .infinity negative

/-- The least exponent at which the quotient has at most 53 bits before its point. -/
def exponentFor (num den : Nat) : Int :=
  let q : Int := max (-1074) ((num.log2 : Int) - den.log2 - 53)
  let (n, d) := inUnits q num den
  if n / d < 1 <<< 53 then q else q + 1

/-- The double nearest to `num / den`, a tie going to the even significand. -/
def ofRatio (negative : Bool) (num den : Nat) : Double :=
  if num = 0 then zero negative
  else
    let q := exponentFor num den
    let (n, d) := inUnits q num den
    let m := nearest n d
    if m = 1 <<< 53 then assemble negative (1 <<< 52) (q + 1) else assemble negative m q

/-! ### Exact value -/

/-- How many units of `2 ^ -1074` make one. -/
def unitsPerOne : Nat := 1 <<< 1074

/-- The magnitude of a finite double in units of `2 ^ -1074`, zero for the others. -/
def magnitude : Double → Nat
  | .finite _ m q _ => m <<< (q + 1074).toNat
  | _ => 0

/-- The value of a finite double in units of `2 ^ -1074`, zero for the others. -/
def units (d : Double) : Int := if d.isNegative then -(d.magnitude : Int) else d.magnitude

@[simp] theorem units_zero (s : Bool) : (zero s).units = 0 := by
  cases s <;> simp [units, zero, magnitude, isNegative]

end Double
end Rehearsal

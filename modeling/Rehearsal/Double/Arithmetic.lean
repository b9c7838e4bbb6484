import Rehearsal.Double.Basic

/-!
# Order and arithmetic of doubles

Each operation takes the exact result, as a whole number of units or as a quotient of two, and
rounds it once. A comparison with a value that is no number has no answer, so such a value is
neither equal to itself nor less than anything.
-/

namespace Rehearsal.Double

/-- How two doubles compare; no answer if one of them is no number. -/
def order : Double → Double → Option Ordering
  | .nan, _ => none
  | _, .nan => none
  | .infinity s, .infinity t => some (compare t s)
  | .infinity s, _ => some (if s then .lt else .gt)
  | _, .infinity t => some (if t then .gt else .lt)
  | a, b => some (compare a.units b.units)

/-- Equality of value: the two zeros are equal, and no number that is not one equals itself. -/
def same (a b : Double) : Bool := order a b == some .eq

def less (a b : Double) : Bool := order a b == some .lt

/-- The greater of two values; one that is no number gives way to the other. -/
def max (a b : Double) : Double :=
  if a.isNaN then b else if b.isNaN then a else if less a b then b else a

/-- The lesser of two values; one that is no number gives way to the other. -/
def min (a b : Double) : Double :=
  if a.isNaN then b else if b.isNaN then a else if less b a then b else a

/-- The sum, rounded once. -/
def add : Double → Double → Double
  | .nan, _ => .nan
  | _, .nan => .nan
  | .infinity s, .infinity t => if s = t then .infinity s else .nan
  | .infinity s, _ => .infinity s
  | _, .infinity t => .infinity t
  | a, b =>
    let n := a.units + b.units
    if n = 0 then zero (a.isNegative && b.isNegative)
    else ofRatio (n < 0) n.natAbs unitsPerOne

/-- The product, rounded once. -/
def mul : Double → Double → Double
  | .nan, _ => .nan
  | _, .nan => .nan
  | .infinity s, b => if b.isFinite && b.magnitude = 0 then .nan else .infinity (s != b.isNegative)
  | a, .infinity t => if a.magnitude = 0 then .nan else .infinity (a.isNegative != t)
  | a, b => ofRatio (a.isNegative != b.isNegative) (a.magnitude * b.magnitude)
      (unitsPerOne * unitsPerOne)

/-- The quotient, rounded once. -/
def div : Double → Double → Double
  | .nan, _ => .nan
  | _, .nan => .nan
  | .infinity s, b => if b.isInfinite then .nan else .infinity (s != b.isNegative)
  | a, .infinity t => zero (a.isNegative != t)
  | a, b =>
    if b.magnitude = 0 then
      if a.magnitude = 0 then .nan else .infinity (a.isNegative != b.isNegative)
    else ofRatio (a.isNegative != b.isNegative) a.magnitude b.magnitude

/-- Is this a finite value without a fraction? -/
def isWhole (d : Double) : Bool := d.isFinite && d.magnitude % unitsPerOne = 0

/-- The whole part of the magnitude. -/
def wholePart (d : Double) : Nat := d.magnitude / unitsPerOne

/-- The nearest whole value; a half goes away from zero, and zero keeps the sign. -/
def round (d : Double) : Double :=
  if d.isFinite then
    ofRatio d.isNegative ((2 * d.magnitude + unitsPerOne) / (2 * unitsPerOne)) 1
  else d

end Rehearsal.Double

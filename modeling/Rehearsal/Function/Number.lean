import Rehearsal.Double.Shortest
import Rehearsal.Function.Arguments

/-!
# Functions on numbers

Sums, extrema, absolute value and rounding of doubles. A whole result below `10 ^ 15` is written
without a point.
-/

namespace Rehearsal

/-- The text of a number: a whole one below `10 ^ 15` has neither point nor sign of zero. -/
def Double.numberText (d : Double) : String :=
  if d.isWhole ∧ d.wholePart < 1_000_000_000_000_000 then
    let n := d.wholePart
    if d.isNegative ∧ n ≠ 0 then s!"-{n}" else s!"{n}"
  else d.plainText

/-- The greatest finite double, with a sign. -/
def Double.greatest (negative : Bool) : Double :=
  .finite negative (1 <<< 53 - 1) 971 (by simp [Double.Canonical])

namespace Function

/-- A function that combines any positive number of numbers, from left to right. -/
def reduce (function : String) (start : Double) (combine : Double → Double → Double) : Function :=
  fun args => do
    liftM (checkCount function (.atLeast 1) args)
    let ds ← liftM (numbers function args)
    return (ds.foldl combine start).numberText

def sum : Function := reduce "sum" (Double.zero true) Double.add

def max : Function := reduce "max" (Double.greatest true) Double.max

def min : Function := reduce "min" (Double.greatest false) Double.min

/-- A function of one number. -/
def onNumber (function : String) (f : Double → Double) : Function :=
  unary function fun a => (number function a).map fun d => (f d).numberText

def absolute : Function := onNumber "absolute" Double.abs

def round : Function := onNumber "round" Double.round

end Function
end Rehearsal

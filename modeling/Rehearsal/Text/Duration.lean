import Rehearsal.Double.Decimal

/-!
# The text of a duration

A duration is a number of milliseconds. It is written in seconds if it has at least one, with as
many decimal places as are needed, and in milliseconds if not; the empty duration is written in the
smallest unit.
-/

namespace Rehearsal.Text

/-- The three decimal places of so many thousandths, without zeros at the end. -/
def thousandths (n : Nat) : List Char :=
  let ds := Decimal.digitsOf n
  let ds := List.replicate (3 - ds.length) '0' ++ ds
  (ds.reverse.dropWhile (· = '0')).reverse

/-- The text of a duration in milliseconds. -/
def durationText (milliseconds : Nat) : String :=
  if milliseconds = 0 then "0ns"
  else if milliseconds < 1000 then s!"{milliseconds}ms"
  else
    let fraction := thousandths (milliseconds % 1000)
    String.ofList (Decimal.digitsOf (milliseconds / 1000)
      ++ (if fraction.isEmpty then [] else '.' :: fraction) ++ ['s'])

end Rehearsal.Text

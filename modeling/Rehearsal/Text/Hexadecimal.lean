/-!
# Hexadecimal numbers

`hexValue?` is the value of one digit, in either case, and `readHex?` the number that some digits
write. No digits write zero.
-/

namespace Rehearsal.Text

/-- The value of a hexadecimal digit. -/
def hexValue? (c : Char) : Option Nat :=
  if '0' ≤ c ∧ c ≤ '9' then some (c.toNat - '0'.toNat)
  else if 'a' ≤ c ∧ c ≤ 'f' then some (c.toNat - 'a'.toNat + 10)
  else if 'A' ≤ c ∧ c ≤ 'F' then some (c.toNat - 'A'.toNat + 10)
  else none

/-- The number that these digits write, if they are hexadecimal digits. -/
def readHex? (ds : List Char) : Option Nat :=
  ds.foldlM (fun n d => (hexValue? d).map (16 * n + ·)) 0

end Rehearsal.Text

import Rehearsal.CharClass.Basic

/-!
# Characters as sequences of bytes

In UTF-8 the characters of a range are the sequences of one to four bytes that lie, byte by byte,
between two bounds, once the range has been cut where the number of bytes changes and where a
leading byte goes on before the bytes behind it have run through. `byteRanges` lists these sequences
of bounds in ascending order.
-/

namespace Rehearsal.CharClass

/-- The bytes of a code point in UTF-8. -/
def bytes (n : Nat) : List Nat := (String.utf8EncodeChar (Char.ofNat n)).map (·.toNat)

/-- Where a block of the size `size` cuts a range: behind the last code point of the first part. -/
def blockCut? (low high size : Nat) : Option Nat :=
  if low / size = high / size then none
  else if low % size ≠ 0 then some (low / size * size + size - 1)
  else if high % size ≠ size - 1 then some (high / size * size - 1)
  else none

/-- Where the number of bytes cuts a range. -/
def lengthCut? (low high : Nat) : Option Nat :=
  [0x7F, 0x7FF, 0xFFFF].find? fun last => low ≤ last && last < high

/-- Where a range has to be cut first. -/
def cut? (low high : Nat) : Option Nat :=
  match lengthCut? low high with
  | some last => some last
  | none => if high ≤ 0x7F then none else [64, 4096, 262144].findSome? (blockCut? low high)

/-- The bounds of the bytes of the characters between two code points. Every cut leaves on its left
or on its right whole blocks only, so there are less than twenty cuts one inside the other. -/
def byteRangesOf : (fuel : Nat) → (low high : Nat) → List (List (Nat × Nat))
  | 0, _, _ => []
  | fuel + 1, low, high =>
    if high < low then []
    else if low < 0xE000 ∧ 0xD7FF < high then
      byteRangesOf fuel low 0xD7FF ++ byteRangesOf fuel 0xE000 high
    else
      match cut? low high with
      | some last => byteRangesOf fuel low last ++ byteRangesOf fuel (last + 1) high
      | none => [(bytes low).zip (bytes high)]

/-- The bounds of the bytes of the characters of a set. -/
def byteRanges (s : CharClass) : List (List (Nat × Nat)) :=
  s.toList.flatMap fun (low, high) => byteRangesOf 32 low high

end Rehearsal.CharClass

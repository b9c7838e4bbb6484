import Rehearsal.Text.Search

/-!
# Universally unique identifiers

An identifier is a number of 128 bits. `render` writes it as 32 hexadecimal digits in five groups
with hyphens between them; `read?` also reads the digits without hyphens, the hyphenated form in
braces and the form that begins with `urn:uuid:`, each with letters of either case.
-/

namespace Rehearsal

/-- A number of 128 bits that names something. -/
structure Uuid where
  value : Nat
  fits : value < 1 <<< 128
  deriving DecidableEq, Repr

namespace Uuid

/-- The identifier of a number, of which the lowest 128 bits count. -/
def ofNat (n : Nat) : Uuid := ⟨n % 1 <<< 128, Nat.mod_lt _ (by decide)⟩

/-- A random identifier: all bits are those of `n`, apart from the six that say so. -/
def random (n : Nat) : Uuid :=
  let high := n >>> 64 % 1 <<< 64
  let low := n % 1 <<< 64
  let high := high >>> 16 <<< 16 + 0x4000 + high % 1 <<< 12
  let low := 1 <<< 63 + low % 1 <<< 62
  ofNat (high <<< 64 + low)

/-- So many hexadecimal digits of a number, the leading one first. -/
def hexDigits : (count : Nat) → Nat → List Char
  | 0, _ => []
  | count + 1, n => Nat.digitChar (n >>> (4 * count) % 16) :: hexDigits count n

def render (u : Uuid) : String :=
  let ds := hexDigits 32 u.value
  let part (start count : Nat) := (ds.drop start).take count
  String.ofList (part 0 8 ++ '-' :: part 8 4 ++ '-' :: part 12 4 ++ '-' :: part 16 4
    ++ '-' :: part 20 12)

/-- The value of a hexadecimal digit. -/
def digit? (c : Char) : Option Nat :=
  if c.isDigit then some (c.toNat - '0'.toNat)
  else if 'a' ≤ c ∧ c ≤ 'f' then some (c.toNat - 'a'.toNat + 10)
  else if 'A' ≤ c ∧ c ≤ 'F' then some (c.toNat - 'A'.toNat + 10)
  else none

/-- The number of 32 hexadecimal digits. -/
def ofDigits? (cs : List Char) : Option Uuid :=
  if cs.length = 32 then
    (cs.foldlM (fun n c => (digit? c).map (16 * n + ·)) 0).map ofNat
  else none

/-- Take out the hyphens behind the 8th, 12th, 16th and 20th digit. -/
def dropHyphens? (cs : List Char) : Option (List Char) :=
  let part (start count : Nat) := (cs.drop start).take count
  if cs.length = 36 ∧ [8, 13, 18, 23].all (fun i => cs[i]? = some '-') then
    some (part 0 8 ++ part 9 4 ++ part 14 4 ++ part 19 4 ++ part 24 12)
  else none

/-- The mark of a name in front, in any case. -/
def nameMark : List Char := "urn:uuid:".toList

/-- Read any of the written forms. -/
def readChars? (cs : List Char) : Option Uuid :=
  if (cs.take nameMark.length).map Char.toLower = nameMark then
    (dropHyphens? (cs.drop nameMark.length)).bind ofDigits?
  else
    match cs with
    | '{' :: r =>
      match r.reverse with
      | '}' :: b => (dropHyphens? b.reverse).bind ofDigits?
      | _ => none
    | _ => if cs.length = 32 then ofDigits? cs else (dropHyphens? cs).bind ofDigits?

def read? (s : String) : Option Uuid := readChars? s.toList

end Uuid
end Rehearsal

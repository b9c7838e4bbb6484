import Rehearsal.Json.Basic

/-!
# Writing JSON

The compact form: no blanks, fields in the order they stand in, and in a text only the quote, the
backslash and the control characters are escaped. A double is written with its shortest digits;
its places are written out, with at least one behind the point, while the point stands no more than
sixteen places behind the first digit and no more than four zeros follow it, and else it has an
exponent.
-/

namespace Rehearsal.Json

/-- The hexadecimal digit of a number below sixteen. -/
def hexDigit (n : Nat) : Char := Nat.digitChar n

/-- A character inside a quoted text. -/
def escapeChar (c : Char) : List Char :=
  if c = '"' then ['\\', '"']
  else if c = '\\' then ['\\', '\\']
  else if c = '\n' then ['\\', 'n']
  else if c = '\r' then ['\\', 'r']
  else if c = '\t' then ['\\', 't']
  else if c.toNat = 8 then ['\\', 'b']
  else if c.toNat = 12 then ['\\', 'f']
  else if c.toNat < 32 then
    ['\\', 'u', '0', '0', hexDigit (c.toNat / 16), hexDigit (c.toNat % 16)]
  else [c]

/-- A text in quotes. -/
def quote (cs : List Char) : List Char := '"' :: cs.flatMap escapeChar ++ ['"']

/-- The places of the point at which a double is written without an exponent. -/
def isPlain (d : Decimal) : Bool :=
  let point : Int := (Decimal.digitsOf d.digits).length + d.exponent
  decide (point > -5 ∧ point ≤ 16)

def writeDouble (d : Double) : List Char :=
  let s := d.shortest
  (if d.isNegative then ['-'] else [])
    ++ if isPlain s then s.positional true else s.scientific

def Number.write : Number → List Char
  | .whole n _ => Decimal.digitsOf n
  | .negative n _ => '-' :: Decimal.digitsOf n
  | .double d _ => writeDouble d

mutual
/-- The compact form of a value. -/
def write : Json → List Char
  | .null => "null".toList
  | .bool true => "true".toList
  | .bool false => "false".toList
  | .number n => n.write
  | .text s => quote s.toList
  | .array [] => ['[', ']']
  | .array (v :: vs) => '[' :: write v ++ writeItems vs
  | .object [] => ['{', '}']
  | .object ((k, v) :: fs) => '{' :: quote k.toList ++ ':' :: write v ++ writeFields fs

/-- The items after the first one, and the closing bracket. -/
def writeItems : List Json → List Char
  | [] => [']']
  | v :: vs => ',' :: write v ++ writeItems vs

/-- The fields after the first one, and the closing brace. -/
def writeFields : List (String × Json) → List Char
  | [] => ['}']
  | (k, v) :: fs => ',' :: quote k.toList ++ ':' :: write v ++ writeFields fs
end

/-- The compact form of a value as a text. -/
def render (v : Json) : String := String.ofList v.write

end Rehearsal.Json

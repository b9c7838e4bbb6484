import Rehearsal.Text.Search

/-!
# Reading whole numbers

`readNatural` reads a natural number below `2 ^ 64`: an optional plus sign and at least one digit,
nothing else. The text is looked at from the left, so of two faults the first one is reported.
`readInteger?` reads a whole number of 64 bits with either sign.
-/

namespace Rehearsal.Text

/-- Why a text is no whole number of 64 bits. -/
inductive NumberFault
  | empty
  | digit
  | tooLarge
  deriving DecidableEq, Repr

def NumberFault.message : NumberFault → String
  | .empty => "cannot parse integer from empty string"
  | .digit => "invalid digit found in string"
  | .tooLarge => "number too large to fit in target type"

/-- The value of decimal digits on top of `acc`, below `limit`. -/
def readDigits (limit : Nat) (acc : Nat) : List Char → Except NumberFault Nat
  | [] => .ok acc
  | c :: cs =>
    if c.isDigit then
      let n := 10 * acc + (c.toNat - '0'.toNat)
      if n < limit then readDigits limit n cs else .error .tooLarge
    else .error .digit

/-- Read a natural number below `2 ^ 64`. -/
def readNatural (cs : List Char) : Except NumberFault Nat :=
  match cs with
  | [] => .error .empty
  | '+' :: [] => .error .digit
  | '+' :: ds => readDigits (1 <<< 64) 0 ds
  | ds => readDigits (1 <<< 64) 0 ds

def readNatural? (cs : List Char) : Option Nat := (readNatural cs).toOption

/-- Read a whole number between `-2 ^ 63` and `2 ^ 63 - 1`. -/
def readInteger? (cs : List Char) : Option Int :=
  match cs with
  | [] | ['-'] | ['+'] => none
  | '-' :: ds => (readDigits (1 <<< 63 + 1) 0 ds).toOption.map fun n => -(n : Int)
  | '+' :: ds => (readDigits (1 <<< 63) 0 ds).toOption.map fun n => (n : Int)
  | ds => (readDigits (1 <<< 63) 0 ds).toOption.map fun n => (n : Int)

end Rehearsal.Text

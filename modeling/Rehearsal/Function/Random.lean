import Rehearsal.Function.Arguments
import Rehearsal.Text.Case

/-!
# Random functions

Random numbers, texts and identifiers.
-/

namespace Rehearsal.Function

/-- So many random digits. -/
def digits : Nat → Draw (List Char)
  | 0 => return []
  | n + 1 => do
    let d ← Draw.below 10
    return Nat.digitChar d :: (← digits n)

/-- So many digits. Unless zeros may stand in front, the first of several digits is not zero. -/
def randomNumber : Function := fun args => do
  liftM (checkCount "randomNumber" (.between 1 2) args)
  let length ← liftM (index "randomNumber" (args.headD ""))
  let padding := args[1]?.any isTrue
  if padding ∨ length ≤ 1 then return String.ofList (← digits length)
  else
    let first ← Draw.below 9
    return String.ofList (Nat.digitChar (first + 1) :: (← digits (length - 1)))

/-- The letters of ASCII, and its digits if they are wanted. -/
def alphabet (withDigits : Bool) : List Char :=
  "ABCDEFGHIJKLMNOPQRSTUVWXYZabcdefghijklmnopqrstuvwxyz".toList
    ++ (if withDigits then "0123456789".toList else [])

/-- So many random characters of an alphabet. -/
def characters (alphabet : Array Char) : Nat → Draw (List Char)
  | 0 => return []
  | n + 1 => do
    let i ← Draw.below alphabet.size
    return alphabet.getD i 'a' :: (← characters alphabet n)

/-- What a mode does to letters, if there is such a mode. -/
def letterCase? (mode : String) : Option (Char → Char) :=
  match mode with
  | "UPPERCASE" => some Char.toUpper
  | "LOWERCASE" => some Char.toLower
  | "MIXED" => some id
  | _ => none

/-- So many random letters, and digits if they are wanted. -/
def randomString : Function := fun args => do
  liftM (checkCount "randomString" (.between 1 3) args)
  let length ← liftM (index "randomString" (args.headD ""))
  let mode := (args[1]?.map fun m => String.ofList (Text.upper m.toList)).getD "MIXED"
  let withDigits := args[2]?.any isTrue
  if length = 0 then return ""
  match letterCase? mode with
  | some f =>
    return String.ofList ((← characters (alphabet withDigits).toArray length).map f)
  | none => liftM (fail (α := String) "randomString" (.mode mode))

def randomUuid : Function := fun args => do
  liftM (checkCount "randomUUID" (.exactly 0) args)
  return (← Draw.uuid).render

end Rehearsal.Function

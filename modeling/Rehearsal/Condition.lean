import Rehearsal.Text.Case
import Rehearsal.Double.Decimal
import Rehearsal.Double.Arithmetic
import Rehearsal.Scope

/-!
# Conditions

A condition is a template that stands for `true`, `false` or a comparison. The comparison is split
at its leftmost operator, of two that begin at one place at the longer one. Its operands are
compared as numbers if both are numbers, and as texts if not. A value that is no number is unequal
to every number and stands in no other relation.
-/

namespace Rehearsal

/-- What a comparison asks. -/
inductive Comparison
  | equal
  | unequal
  | less
  | lessOrEqual
  | greater
  | greaterOrEqual
  deriving DecidableEq, Repr

namespace Comparison

/-- The written operators, longer ones first. -/
def operators : List (List Char × Comparison) :=
  [(['=', '='], .equal), (['!', '='], .unequal), (['<', '='], .lessOrEqual),
    (['>', '='], .greaterOrEqual), (['='], .equal), (['<'], .less), (['>'], .greater)]

/-- The operator that a text begins with, and the rest. -/
def leading? (cs : List Char) : Option (Comparison × List Char) :=
  operators.findSome? fun (written, op) => (Text.strip? written cs).map fun r => (op, r)

/-- The text around the leftmost operator, and that operator. -/
def split? : List Char → Option (List Char × Comparison × List Char)
  | [] => none
  | c :: cs =>
    match leading? (c :: cs) with
    | some (op, r) => some ([], op, r)
    | none => (split? cs).map fun (a, op, b) => (c :: a, op, b)

/-- Does a comparison hold of two values in this order? Values without an order are unequal. -/
def holds (op : Comparison) : Option Ordering → Bool
  | none => op = .unequal
  | some o =>
    match op with
    | .equal => o.isEq
    | .unequal => o.isNe
    | .less => o.isLT
    | .lessOrEqual => o.isLE
    | .greater => o.isGT
    | .greaterOrEqual => o.isGE

/-- The order of two texts by their characters. -/
def orderTexts : List Char → List Char → Ordering
  | [], [] => .eq
  | [], _ :: _ => .lt
  | _ :: _, [] => .gt
  | a :: as, b :: bs => (compare a.toNat b.toNat).then (orderTexts as bs)

/-- The order of two operands: of numbers if both are numbers, else of texts. -/
def order (a b : List Char) : Option Ordering :=
  match Double.read? (String.ofList a), Double.read? (String.ofList b) with
  | some x, some y => Double.order x y
  | _, _ => some (orderTexts a b)

end Comparison

namespace Condition

/-- The truth of a condition without placeholders. -/
def decide? (cs : List Char) : Except Error Bool :=
  let cs := Text.trim cs
  if Text.equalIgnoringAsciiCase cs "true".toList then .ok true
  else if Text.equalIgnoringAsciiCase cs "false".toList then .ok false
  else
    match Comparison.split? cs with
    | none => .error (.expression (.condition (String.ofList cs)))
    | some (a, op, b) => .ok (op.holds (Comparison.order (Text.trim a) (Text.trim b)))

end Condition

/-- The truth of a condition. -/
def Scope.holds (s : Scope) (condition : String) : Draw Bool := do
  liftM (Condition.decide? (← s.resolveChars condition.toList))

end Rehearsal

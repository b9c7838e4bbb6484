import Rehearsal.Text.Case
import Rehearsal.Double.Decimal
import Rehearsal.Scope
import Rehearsal.Text.Whole

/-!
# Arguments of functions

What the functions of the standard library ask of their arguments. The number of arguments is looked
at first; numbers and indices may have blanks around them.
-/

namespace Rehearsal.Function

/-- The error of a function about its arguments. -/
def fail {α : Type} (function : String) (fault : ArgumentFault) : Except Error α :=
  .error (.functionArguments function fault)

/-- Refuse a number of arguments that the function does not take. -/
def checkCount (function : String) (arity : Arity) (args : List String) : Except Error Unit :=
  if arity.admits args.length then .ok () else fail function (.count arity args.length)

/-- The argument as a number. -/
def number (function arg : String) : Except Error Double :=
  match Double.read? (Text.trimmed arg) with
  | some d => .ok d
  | none => fail function (.number arg)

/-- The arguments as numbers, up to the first that is none. -/
def numbers (function : String) (args : List String) : Except Error (List Double) :=
  args.mapM (number function)

/-- The argument as an index. -/
def index (function arg : String) : Except Error Nat :=
  match Text.readNatural? (Text.trim arg.toList) with
  | some n => .ok n
  | none => fail function (.index arg)

/-- A function of one argument. -/
def unary (function : String) (f : String → Except Error String) : Function := fun args =>
  match args with
  | [a] => liftM (f a)
  | _ => liftM (fail (α := String) function (.count (.exactly 1) args.length))

/-- Is this the word `true`, in any case? -/
def isTrue (arg : String) : Bool := Text.equalIgnoringAsciiCase arg.toList "true".toList

end Rehearsal.Function

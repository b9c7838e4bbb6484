import Rehearsal.Function.Arguments
import Rehearsal.Pattern.Match
import Rehearsal.Text.Escape

/-!
# Functions on texts

The functions of the standard library that cut, join and change texts.
-/

namespace Rehearsal.Function

/-- All arguments, one behind the other. -/
def concat : Function := fun args => return String.join args

def upperCase : Function :=
  unary "upperCase" fun a => .ok (String.ofList (Text.upper a.toList))

def lowerCase : Function :=
  unary "lowerCase" fun a => .ok (String.ofList (Text.lower a.toList))

/-- The characters from one place up to another one, by default the end. -/
def substring : Function := fun args => do
  liftM (checkCount "substring" (.between 2 3) args)
  let cs := (args.headD "").toList
  let start ← liftM (index "substring" (args.getD 1 ""))
  let stop ← match args[2]? with
    | some a => liftM (index "substring" a)
    | none => pure cs.length
  if stop < start ∨ cs.length < stop then
    liftM (fail (α := String) "substring" (.range start stop cs.length))
  else return String.ofList ((cs.drop start).take (stop - start))

def stringLength : Function := unary "stringLength" fun a => .ok (toString a.length)

/-- Put a text in the place of each match of a pattern; the text may refer to groups. -/
def translate : Function := fun args =>
  match args with
  | [text, pattern, new] =>
    match Pattern.compile pattern with
    | .ok prog =>
      let cs := text.toList
      return String.ofList (prog.replaceAll (fun m => prog.expand cs m new.toList) cs)
    | .error fault => liftM (fail (α := String) "translate" (.pattern fault))
  | _ => liftM (fail (α := String) "translate" (.count (.exactly 3) args.length))

def escapeXml : Function :=
  unary "escapeXml" fun a => .ok (String.ofList (Text.escapeEach a.toList))

end Rehearsal.Function

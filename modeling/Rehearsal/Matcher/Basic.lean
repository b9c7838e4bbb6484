import Rehearsal.Scope

/-!
# Matcher expressions

An expected text that is written between two `@` is not compared but judges the received value: it
names a matcher, with arguments in parentheses if there are any. The arguments are templates.
`Scope.judge` runs a matcher expression on a value.
-/

namespace Rehearsal

namespace Matcher

/-- The inside of a text between two delimiters, with blanks around it. -/
def inside? (expression : List Char) : Option (List Char) :=
  match Text.trim expression with
  | '@' :: r => if r.getLast? = some '@' then some r.dropLast else none
  | _ => none

/-- Is this a matcher expression? What is inside may still be malformed. -/
def isExpression (s : String) : Bool := (inside? s.toList).isSome

/-- The qualifier in front of a name, if there is one, and the rest. -/
def optionalQualifier (cs : List Char) : List Char × List Char :=
  (Call.readQualifier? cs).getD ([], cs)

/-- The arguments behind a name: none at all, or a list in parentheses. -/
def readArguments? : List Char → Option (List (List Char))
  | [] => some []
  | cs => (Call.readParenthesized? cs).map Call.splitArguments

/-- Read the call of a matcher. -/
def readCall? (cs : List Char) : Option Call := do
  let (qualifier, r) := optionalQualifier (Text.trim cs)
  let (name, r) ← Call.readName? r
  let args ← readArguments? r
  return ⟨String.ofList qualifier, String.ofList name, args⟩

/-- Read a matcher expression. -/
def parse (expression : String) : Except Error Call :=
  match inside? expression.toList with
  | none => .error (.expression (.notMatcher expression))
  | some cs =>
    match readCall? cs with
    | none => .error (.expression (.malformedMatcher expression))
    | some c => .ok c

end Matcher

namespace Scope

/-- The matcher with this name. -/
def matcher? (s : Scope) (qualifier name : String) : Except Error Matcher :=
  match s.matchers.lookup? qualifier name with
  | some m => .ok m
  | none => .error (.unknownMatcher (qualifier ++ name))

/-- Judge the value of a field by a matcher expression. -/
def judge (s : Scope) (field value expression : String) : Draw Unit := do
  let call ← liftM (Matcher.parse expression)
  let matcher ← liftM (s.matcher? call.qualifier call.name)
  let control ← s.resolveAll (call.args.map String.ofList)
  liftM (matcher field value control)

end Scope
end Rehearsal

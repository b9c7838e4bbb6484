import Rehearsal.Expression
import Rehearsal.Fresh
import Rehearsal.Library

/-!
# Scopes

A scope is what the text of a test case is read against: the variables, the functions and the
matchers. `resolve` gives the text that a template stands for: its expression is evaluated from
left to right, a call by finding its function, evaluating its arguments and running the function.
What is put in for a placeholder is never looked at again.
-/

namespace Rehearsal

/-- Functions see their arguments only, never the variables. -/
abbrev Function := List String → Draw String

/-- Matchers judge the value of a field with the arguments that they were given. -/
abbrev Matcher := (field value : String) → (control : List String) → Except Error Unit

/-- The text that a value is put into templates as: texts stand as they are, null is empty, and
every other value has its compact form. -/
def Json.plain : Json → String
  | .text s => s
  | .null => ""
  | v => v.render

/-- What the text of a test case is read against. -/
structure Scope where
  vars : Assoc Json := .empty
  functions : Libraries Function := []
  matchers : Libraries Matcher := []

namespace Scope

/-- The value of a variable. -/
def value? (s : Scope) (name : String) : Except Error Json :=
  match s.vars.get? name with
  | some v => .ok v
  | none => .error (.unknownVariable name)

/-- The function with this name. -/
def function? (s : Scope) (qualifier name : String) : Except Error Function :=
  match s.functions.lookup? qualifier name with
  | some f => .ok f
  | none => .error (.unknownFunction (qualifier ++ name))

/-- Bind a variable. -/
def bind (s : Scope) (name : String) (value : Json) : Scope :=
  { s with vars := s.vars.insert name value }

mutual
/-- The text of an expression. -/
def eval (s : Scope) : Expression → Draw (List Char)
  | .literal t => return t
  | .lookup name => do
    let v ← liftM (s.value? (String.ofList name))
    return v.plain.toList
  | .call qualifier name args => do
    let f ← liftM (s.function? qualifier name)
    let vs ← evalAll s args
    let r ← f (vs.map String.ofList)
    return r.toList
  | .template parts => return (← evalAll s parts).flatten
  | .unterminated t => throw (.expression (.unterminated (String.ofList t)))

/-- The texts of expressions, from left to right. -/
def evalAll (s : Scope) : List Expression → Draw (List (List Char))
  | [] => return []
  | e :: es => do
    let t ← eval s e
    let ts ← evalAll s es
    return t :: ts
end

/-- The expression of a template in this scope. -/
def read (s : Scope) (template : List Char) : Expression :=
  .ofTemplate s.functions.knows template

/-- The text that a template stands for. -/
def resolveChars (s : Scope) (template : List Char) : Draw (List Char) := s.eval (s.read template)

def resolve (s : Scope) (template : String) : Draw String :=
  return String.ofList (← s.resolveChars template.toList)

/-- The value that a value stands for: a text is a template, every other value stands for
itself. -/
def resolveValue (s : Scope) : Json → Draw Json
  | .text t => return .text (← s.resolve t)
  | v => return v

/-- The texts of templates, from left to right. -/
def resolveAll (s : Scope) : List String → Draw (List String)
  | [] => return []
  | t :: ts => do
    let r ← s.resolve t
    let rs ← s.resolveAll ts
    return r :: rs

end Scope
end Rehearsal

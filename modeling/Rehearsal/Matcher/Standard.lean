import Rehearsal.Double.Shortest
import Rehearsal.Matcher.Basic
import Rehearsal.Pattern.Match
import Rehearsal.Text.Case
import Rehearsal.Text.Whole

/-!
# The standard matchers

The library of matchers that every test case begins with, and three ways to make matchers of one's
own. Those that compare ask for exactly one argument, and look at their arguments first.
-/

namespace Rehearsal.Matcher

/-- Accept a value, or say what it fails to be. -/
def require (holds : Bool) (field value expectation : String) : Except Error Unit :=
  if holds then .ok () else .error (.validation (.unmet field value expectation))

/-- A matcher without regard to its arguments. -/
def simple (holds : String → Bool) (expectation : String) : Matcher := fun field value _ =>
  require (holds value) field value expectation

/-- A matcher of exactly one argument. -/
def withArgument (name : String) (judge : (field value argument : String) → Except Error Unit) :
    Matcher := fun field value control =>
  match control with
  | [argument] => judge field value argument
  | _ => .error (.expression (.matcherArity name control.length))

/-- A matcher that compares with one text. -/
def comparing (name : String) (holds : (value argument : List Char) → Bool)
    (expectation : String → String) : Matcher :=
  withArgument name fun field value argument =>
    require (holds value.toList argument.toList) field value (expectation argument)

/-- The text as a number. -/
def number (name text : String) : Except Error Double :=
  match Double.read? (Text.trimmed text) with
  | some d => .ok d
  | none => .error (.validation (.number name text))

/-- A matcher that compares with one number; the argument is read before the value. -/
def comparingNumbers (name : String) (holds : (value limit : Double) → Bool) (relation : String) :
    Matcher :=
  withArgument name fun field value argument => do
    let limit ← number name argument
    let actual ← number name value
    require (holds actual limit) field value (s!"is not {relation} than " ++ limit.plainText)

/-- Does the whole text match the pattern? -/
def fullMatch : Matcher :=
  withArgument "matches" fun field value argument =>
    match Pattern.compile ("^(?:" ++ argument ++ ")$") with
    | .ok prog => require (prog.isMatch value.toList) field value s!"does not match '{argument}'"
    | .error fault => .error (.expression (.pattern argument fault))

/-- Has the text so many characters? -/
def stringLength : Matcher :=
  withArgument "stringLength" fun field value argument =>
    match Text.readNatural? (Text.trim argument.toList) with
    | some n => require (value.length = n) field value s!"does not have length {n}"
    | none => .error (.expression (.length argument))

/-- The library of the standard matchers, which has no qualifier. -/
def standard : Library Matcher where
  name := "courier-matchers"
  qualifier := ""
  entries := .ofList [
    ("ignore", fun _ _ _ => .ok ()),
    ("equalsIgnoreCase", comparing "equalsIgnoreCase"
      (fun v a => Text.lower v = Text.lower a) fun a => s!"does not equal '{a}' ignoring case"),
    ("contains", comparing "contains"
      (fun v a => Text.contains a v) fun a => s!"does not contain '{a}'"),
    ("containsIgnoreCase", comparing "containsIgnoreCase"
      (fun v a => Text.contains (Text.lower a) (Text.lower v))
      fun a => s!"does not contain '{a}' ignoring case"),
    ("startsWith", comparing "startsWith"
      (fun v a => Text.startsWith a v) fun a => s!"does not start with '{a}'"),
    ("endsWith", comparing "endsWith"
      (fun v a => Text.endsWith a v) fun a => s!"does not end with '{a}'"),
    ("matches", fullMatch),
    ("isNumber", simple (fun v => (Double.read? (Text.trimmed v)).isSome) "is not a number"),
    ("greaterThan", comparingNumbers "greaterThan" (fun v l => Double.less l v) "greater"),
    ("lowerThan", comparingNumbers "lowerThan" (fun v l => Double.less v l) "lower"),
    ("isUUID", simple (fun v => (Uuid.read? (Text.trimmed v)).isSome) "is not a UUID"),
    ("isEmpty", simple (fun v => v = "") "is not empty"),
    ("notEmpty", simple (fun v => v ≠ "") "is empty"),
    ("stringLength", stringLength)]

/-- A matcher that accepts everything. -/
def accepting : Matcher := fun _ _ _ => .ok ()

/-- The reason of a matcher that refuses: a text, the field with its value, and the arguments. -/
def refusal (text field value : String) (control : List String) : Error :=
  let arguments := "|".intercalate control
  .validation (.other s!"{text}: {field}={value} [{arguments}]")

/-- A matcher that refuses everything. -/
def refusing (text : String) : Matcher := fun field value control =>
  .error (refusal text field value control)

/-- A matcher that accepts the values among its arguments. -/
def oneOf (text : String) : Matcher := fun field value control =>
  if control.contains value then .ok () else .error (refusal text field value control)

end Rehearsal.Matcher

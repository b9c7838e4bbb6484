import Rehearsal.Function.Date
import Rehearsal.Function.Number
import Rehearsal.Function.Random
import Rehearsal.Function.Text

/-!
# The standard functions

The library of functions that every test case begins with, and three ways to make functions of
one's own.
-/

namespace Rehearsal.Function

/-- The library of the standard functions. -/
def standard : Library Function where
  name := "courier-functions"
  qualifier := "courier:"
  entries := .ofList [("concat", concat), ("upperCase", upperCase), ("lowerCase", lowerCase),
    ("substring", substring), ("stringLength", stringLength), ("translate", translate),
    ("randomNumber", randomNumber), ("randomString", randomString), ("randomUUID", randomUuid),
    ("currentDate", currentDate), ("sum", sum), ("max", max), ("min", min),
    ("absolute", absolute), ("round", round), ("escapeXml", escapeXml)]

/-- A function that always gives the same text. -/
def constant (text : String) : Function := fun _ => return text

/-- A function that joins its arguments with a text in between. -/
def joining (separator : String) : Function := fun args => return separator.intercalate args

/-- A function that refuses its arguments. -/
def refusing (name reason : String) : Function := fun _ =>
  throw (.functionArguments name (.other reason))

end Rehearsal.Function

import Rehearsal.Text.Escape

/-!
# Writing markup

A `Markup` is a document of nested elements in the course of being written, with the elements that
are still open. Every element begins on a line of its own, indented by two blanks for each open
element; an element that has elements in it ends on a line of its own as well.
-/

namespace Rehearsal

/-- An element that is still open. -/
structure OpenElement where
  name : String
  /-- Has an element been written in it? -/
  hasChildren : Bool
  deriving DecidableEq, Repr

/-- A document in the course of being written. -/
structure Markup where
  output : List Char := []
  /-- The open elements, the innermost one first. -/
  opened : List OpenElement := []
  deriving DecidableEq, Repr

/-- What is wrong with the elements of a document. -/
inductive MarkupFault
  | nothingOpen
  | unclosed (name : String)
  deriving DecidableEq, Repr

def MarkupFault.message : MarkupFault → String
  | .nothingOpen => "end_element called without an open element"
  | .unclosed name => s!"element '{name}' was never closed"

namespace Markup

/-- The indentation in so many elements. -/
def indent (depth : Nat) : List Char := List.replicate (2 * depth) ' '

/-- Note that the innermost open element has an element in it. -/
def markParent : List OpenElement → List OpenElement
  | [] => []
  | e :: es => { e with hasChildren := true } :: es

/-- Begin a line for an element. -/
def newLine (m : Markup) : Markup where
  output := m.output ++ (if m.output.isEmpty then [] else ['\n']) ++ indent m.opened.length
  opened := markParent m.opened

/-- An attribute in a start tag. -/
def attributeText (key value : String) : List Char :=
  ' ' :: key.toList ++ '=' :: '"' :: Text.escapeInTurn value.toList ++ ['"']

def startTag (name : String) (attributes : List (String × String)) : List Char :=
  '<' :: name.toList ++ attributes.flatMap (fun (k, v) => attributeText k v) ++ ['>']

def endTag (name : String) : List Char := '<' :: '/' :: name.toList ++ ['>']

/-- Open an element. -/
def start (m : Markup) (name : String) (attributes : List (String × String)) : Markup :=
  let m := m.newLine
  { output := m.output ++ startTag name attributes, opened := ⟨name, false⟩ :: m.opened }

/-- Write text. -/
def text (m : Markup) (s : String) : Markup :=
  { m with output := m.output ++ Text.escapeInTurn s.toList }

/-- Close the innermost open element. -/
def stop (m : Markup) : Except MarkupFault Markup :=
  match m.opened with
  | [] => .error .nothingOpen
  | e :: es => .ok
    { output := m.output ++ (if e.hasChildren then '\n' :: indent es.length else [])
        ++ endTag e.name
      opened := es }

/-- Write an element that holds text only. -/
def element (m : Markup) (name s : String) : Markup :=
  let m := m.newLine
  { m with output := m.output ++ startTag name [] ++ Text.escapeInTurn s.toList ++ endTag name }

/-- The document, if no element is open. -/
def finish (m : Markup) : Except MarkupFault String :=
  match m.opened with
  | [] => .ok (String.ofList m.output)
  | e :: _ => .error (.unclosed e.name)

end Markup
end Rehearsal

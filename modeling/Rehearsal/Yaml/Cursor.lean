import Rehearsal.Text.Search

/-!
# Reading a YAML text

A cursor is a place in a text: what is still to be read, and in which line and column it stands.
Blanks are spaces and tabs; lines end in a carriage return, a line feed or both, in a
next-line character, or in one of the two separators of Unicode, which count as themselves where
every other line end counts as a line feed.
-/

namespace Rehearsal.Yaml

/-- Why a text is no YAML document. -/
inductive Fault
  /-- What stands in this line and column is not what it may be. -/
  | unexpected (reason : String) (line column : Nat)
  | controlCharacter
  /-- A token stands where it may not. -/
  | misplaced (reason : String)
  | unknownAnchor (name : String)
  | severalDocuments
  /-- A value has another form than the one that is needed. -/
  | form (needed : String)
  | missingField (name : String)
  | duplicateField (name : String)
  | unknownName (name : String)
  | tooDeep
  deriving DecidableEq, Repr

def Fault.message : Fault → String
  | .unexpected reason line column => s!"{reason} at line {line} column {column}"
  | .controlCharacter => "control characters are not allowed"
  | .misplaced reason => reason
  | .unknownAnchor name => s!"unknown anchor '{name}'"
  | .severalDocuments => "more than one document"
  | .form needed => s!"invalid type, expected {needed}"
  | .missingField name => s!"missing field '{name}'"
  | .duplicateField name => s!"duplicate field '{name}'"
  | .unknownName name => s!"unknown variant '{name}'"
  | .tooDeep => "nested too deeply or repeated too often"

/-! ### Characters -/

def isBlank (c : Char) : Bool := c = ' ' || c = '\t'

def nextLine : Char := Char.ofNat 0x85
def lineSeparator : Char := Char.ofNat 0x2028
def paragraphSeparator : Char := Char.ofNat 0x2029
def byteOrderMark : Char := Char.ofNat 0xFEFF

/-- Does the character end a line? -/
def isBreak (c : Char) : Bool :=
  c = '\n' || c = '\r' || c = nextLine || c = lineSeparator || c = paragraphSeparator

/-- A character of a name: a letter or digit of ASCII, a low line or a hyphen. -/
def isNameChar (c : Char) : Bool := c.isAlphanum || c = '_' || c = '-'

/-- A character that may stand in a text at all. -/
def isAllowed (c : Char) : Bool :=
  let n := c.toNat
  c = '\t' || c = '\n' || c = '\r' || c = nextLine || (0x20 ≤ n && n ≤ 0x7E)
    || (0xA0 ≤ n && n ≠ 0xFFFE && n ≠ 0xFFFF)

/-- Does the text end here, or go on with a blank or the end of a line? -/
def endsWord : List Char → Bool
  | [] => true
  | c :: _ => isBlank c || isBreak c

/-- Does the text end here, or go on with the end of a line? -/
def endsLine : List Char → Bool
  | [] => true
  | c :: _ => isBreak c

/-- The line end that a text begins with, as the character it counts as, and the rest. -/
def break? : List Char → Option (Char × List Char)
  | '\r' :: '\n' :: r => some ('\n', r)
  | c :: r =>
    if c = lineSeparator ∨ c = paragraphSeparator then some (c, r)
    else if isBreak c then some ('\n', r)
    else none
  | [] => none

/-! ### Cursors -/

/-- A place in a text. -/
structure Cursor where
  rest : List Char
  line : Nat := 0
  column : Nat := 0
  /-- How many bytes of the line lie before the place. -/
  offset : Nat := 0
  deriving DecidableEq, Repr

namespace Cursor

/-- The next character. -/
def peek? (c : Cursor) : Option Char := c.rest.head?

/-- Is this the next character? -/
def isAt (c : Cursor) (ch : Char) : Bool := c.peek? = some ch

/-- The place behind the next character, which does not end a line. -/
def next (c : Cursor) : Cursor :=
  match c.rest with
  | [] => c
  | ch :: r => { c with rest := r, column := c.column + 1, offset := c.offset + ch.utf8Size }

/-- The place so many characters further. -/
def advance : Nat → Cursor → Cursor
  | 0, c => c
  | n + 1, c => advance n c.next

/-- The characters of one line from here on, as long as they have a property, and the place behind
them. -/
def takeWhile (p : Char → Bool) (c : Cursor) : List Char × Cursor :=
  let taken := c.rest.takeWhile p
  (taken, { c with
    rest := c.rest.dropWhile p
    column := c.column + taken.length
    offset := taken.foldl (fun n ch => n + ch.utf8Size) c.offset })

/-- The place behind the characters that have a property. -/
def skipWhile (p : Char → Bool) (c : Cursor) : Cursor := (c.takeWhile p).2

/-- The line end that comes next, and the place behind it. -/
def takeBreak? (c : Cursor) : Option (Char × Cursor) :=
  match break? c.rest with
  | none => none
  | some (b, r) => some (b, { rest := r, line := c.line + 1 })

/-- The place behind a line end, if one comes next. -/
def skipBreak (c : Cursor) : Cursor :=
  match c.takeBreak? with
  | some (_, c) => c
  | none => c

/-- Does a mark between documents stand here, three times this character at the start of a line? -/
def isAtMark (c : Cursor) (ch : Char) : Bool :=
  c.column = 0 && match c.rest with
    | x :: y :: z :: r => x = ch && y = ch && z = ch && endsWord r
    | _ => false

/-- Does either mark between documents stand here? -/
def isAtDocumentMark (c : Cursor) : Bool := c.isAtMark '-' || c.isAtMark '.'

/-- The fault of what stands here. -/
def unexpected {α : Type} (c : Cursor) (reason : String) : Except Fault α :=
  .error (.unexpected reason (c.line + 1) (c.column + 1))

end Cursor
end Rehearsal.Yaml

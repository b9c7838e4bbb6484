import Rehearsal.CharClass.Fold
import Rehearsal.CharClass.Named
import Rehearsal.Pattern.Reader
import Rehearsal.Text.Word

/-!
# Escapes of patterns

A backslash begins an escape: of a character that would otherwise not stand for itself, of a
character by its code, of a set of characters, or of an assertion. What a set holds depends on the
flags: without regard to case it has the other case of its characters too, and without Unicode it
has characters of ASCII only; what it would have beyond them is a fault.
-/

namespace Rehearsal.Pattern

/-! ### Sets under flags -/

/-- The set with the other case of its characters, where the flags want that. -/
def Flags.fold (f : Flags) (s : CharClass) : CharClass :=
  if f.ignoreCase then
    if f.unicode then s.folded else s.folded.inter .ascii
  else s

/-- The other characters, if the set is negated. Without Unicode they are no characters of ASCII
alone. -/
def Flags.negate (f : Flags) (negated : Bool) (s : CharClass) : Except Fault CharClass :=
  if !negated then .ok s
  else if f.unicode then .ok s.compl
  else .error .noUnicode

/-- A set as it counts under the flags: first the case is left out of account, then it is
negated. -/
def Flags.finish (f : Flags) (negated : Bool) (s : CharClass) : Except Fault CharClass :=
  f.negate negated (f.fold s)

/-- A character that stands for itself. -/
def Flags.single (f : Flags) (c : Char) : Pattern :=
  if !f.ignoreCase then .text [c]
  else if f.unicode then ofSet (.sameFold c)
  else if c.isAlpha then .set (.ofChars [c.toUpper, c.toLower])
  else .text [c]

/-- The sets written with a letter: digits, blanks and word characters, or the others if the letter
is a capital one. -/
def Flags.letterClass? (f : Flags) (c : Char) : Option (Except Fault CharClass) :=
  let s : Option CharClass := match c.toLower with
    | 'd' => some (if f.unicode then .decimalNumber else .ofRange '0' '9')
    | 's' => some (if f.unicode then .whiteSpace else .ofText "9-D 20")
    | 'w' => some (if f.unicode then .word else .asciiWord)
    | _ => none
  s.map (f.negate c.isUpper)

/-- The characters of a word for the assertions about words. -/
def Flags.wordSet (f : Flags) : CharClass := if f.unicode then .word else .asciiWord

/-- The classes of ASCII by name. -/
def asciiClass? : String → Option CharClass
  | "alnum" => some (.ofText "30-39 41-5A 61-7A")
  | "alpha" => some (.ofText "41-5A 61-7A")
  | "ascii" => some .ascii
  | "blank" => some (.ofText "9 20")
  | "cntrl" => some (.ofText "0-1F 7F")
  | "digit" => some (.ofText "30-39")
  | "graph" => some (.ofText "21-7E")
  | "lower" => some (.ofText "61-7A")
  | "print" => some (.ofText "20-7E")
  | "punct" => some (.ofText "21-2F 3A-40 5B-60 7B-7E")
  | "space" => some (.ofText "9-D 20")
  | "upper" => some (.ofText "41-5A")
  | "word" => some .asciiWord
  | "xdigit" => some (.ofText "30-39 41-46 61-66")
  | _ => none

/-! ### Escapes -/

/-- What a character or an escape stands for. -/
inductive Primitive
  | char (c : Char)
  | set (s : CharClass)
  | look (l : Look)

/-- The result of a check as a step. -/
def check {α : Type} (r : Except Fault α) : Step α :=
  match r with
  | .ok a => pure a
  | .error fault => throw fault

/-- The characters that may be escaped and then stand for themselves. -/
def isEscapable (c : Char) : Bool :=
  c.toNat < 128 && !c.isAlphanum && c != '<' && c != '>'

/-- The character with this code, if there is one. -/
def charOf? (n : Nat) : Option Char := if n.isValidChar then some (Char.ofNat n) else none

/-- Take this many characters, without blanks that do not count. -/
def takeCount : (n : Nat) → Step (List Char)
  | 0 => return []
  | n + 1 => do
    skipSpace
    match ← peek with
    | none => return []
    | some c =>
      bump
      return c :: (← takeCount n)

/-- The character of a hexadecimal escape, behind its letter, and whether its code stands in
braces. -/
def hexEscape (digits : Nat) : Step (Char × Bool) := do
  skipSpace
  let braced := (← peek) = some '{'
  let ds ← if braced then do
      bump
      match ← takeUntil '}' with
      | none | some [] => throw .hexadecimal
      | some ds => pure ds
    else do
      let ds ← takeCount digits
      if ds.length < digits then throw .hexadecimal
      pure ds
  skipSpace
  match (Text.readHex? ds).bind charOf? with
  | some c => return (c, braced)
  | none => throw .hexadecimal

/-- The special assertions about words that are written behind `\b` in braces; nothing if the brace
begins a repetition. -/
def wordAssertion : Step (Option Look) := do
  let saved ← get
  let letters := saved.flags.wordSet
  bumpSpace
  match ← peek with
  | none => throw .wordBoundary
  | some c =>
    if !(c.isAlpha || c = '-') then
      modify fun _ => saved
      return none
    match ← takeUntil '}' with
    | none => throw .wordBoundary
    | some name =>
      match String.ofList name with
      | "start" => return some (.wordStart letters)
      | "end" => return some (.wordStop letters)
      | "start-half" => return some (.noWordBefore letters)
      | "end-half" => return some (.noWordAfter letters)
      | _ => throw .wordBoundary

/-- The set of what is written in the braces of a property: a name, or a property with its value.
Between these stands `=`, `:` or `!=`, and all three mean the same. -/
def readProperty (cs : List Char) : Option CharClass :=
  match Text.cut? ['!', '='] cs, Text.splitOnce? ':' cs, Text.splitOnce? '=' cs with
  | some (property, value), _, _ => CharClass.ofValue? property value
  | none, some (property, value), _ => CharClass.ofValue? property value
  | none, none, some (property, value) => CharClass.ofValue? property value
  | none, none, none => CharClass.ofName? cs

/-- The characters with a property, or those without it; the reader stands behind the letter of the
escape. -/
def propertySet (negated : Bool) : Step CharClass := do
  skipSpace
  let found ← match ← peek with
    | none => throw .escape
    | some '{' =>
      bump
      match ← takeUntil '}' with
      | none => throw .escape
      | some cs => pure (readProperty cs)
    | some c =>
      bumpSpace
      pure (CharClass.ofName? [c])
  let f := (← get).flags
  match found with
  | none => throw .unknownProperty
  | some s =>
    if !f.unicode then throw .noUnicode
    check (f.finish negated s)

/-- What an escape stands for; the reader stands behind the backslash. -/
def escape : Step Primitive := do
  let f := (← get).flags
  match ← peek with
  | none => throw .escape
  | some c =>
    bump
    if c.isDigit then throw .backReference
    if isEscapable c then return .char c
    match c with
    | 'x' =>
      let (c, braced) ← hexEscape 2
      if !f.unicode && !braced && c.toNat > 127 then throw .noUnicode
      return .char c
    | 'u' => return .char (← hexEscape 4).1
    | 'U' => return .char (← hexEscape 8).1
    | 'p' => return .set (← propertySet false)
    | 'P' => return .set (← propertySet true)
    | 'a' => return .char (Char.ofNat 7)
    | 'f' => return .char (Char.ofNat 12)
    | 't' => return .char '\t'
    | 'n' => return .char '\n'
    | 'r' => return .char '\r'
    | 'v' => return .char (Char.ofNat 11)
    | 'A' => return .look .start
    | 'z' => return .look .stop
    | 'b' =>
      match ← peek with
      | some '{' =>
        match ← wordAssertion with
        | some l => return .look l
        | none => return .look (.boundary f.wordSet)
      | _ => return .look (.boundary f.wordSet)
    | 'B' => return .look (.noBoundary f.wordSet)
    | '<' => return .look (.wordStart f.wordSet)
    | '>' => return .look (.wordStop f.wordSet)
    | c =>
      match f.letterClass? c with
      | some r => return .set (← check r)
      | none => throw .escape

end Rehearsal.Pattern

import Rehearsal.Pattern.Normal
import Rehearsal.Text.Blank

/-!
# The reader of patterns

What all readers of parts of a pattern share: the faults, the flags that are on at a place, and the
steps over the written form. Where the flag `x` is on, blanks and comments do not count.
-/

namespace Rehearsal.Pattern

/-- Why a text is no pattern. -/
inductive Fault
  | unclosedGroup
  | unopenedGroup
  | emptyFlags
  | groupName
  | duplicateName
  | lookAround
  | flags
  | nothingToRepeat
  | count
  | emptyRange
  | escape
  | backReference
  | hexadecimal
  | wordBoundary
  | unknownProperty
  | unclosedClass
  | classItem
  | noUnicode
  | tooDeep
  | tooLarge
  deriving DecidableEq, Repr

/-- What is wrong with the text, in words. -/
def Fault.reason : Fault → String
  | .unclosedGroup => "unclosed group"
  | .unopenedGroup => "unopened group"
  | .emptyFlags => "repetition operator missing expression"
  | .groupName => "invalid capture group name"
  | .duplicateName => "duplicate capture group name"
  | .lookAround => "look-around is not supported"
  | .flags => "invalid flags"
  | .nothingToRepeat => "repetition operator missing expression"
  | .count => "invalid repetition count"
  | .emptyRange => "invalid range, the start must be <= the end"
  | .escape => "unrecognized escape sequence"
  | .backReference => "backreferences are not supported"
  | .hexadecimal => "invalid hexadecimal escape"
  | .wordBoundary => "invalid word boundary assertion"
  | .unknownProperty => "Unicode property not found"
  | .unclosedClass => "unclosed character class"
  | .classItem => "invalid escape sequence found in character class"
  | .noUnicode => "pattern can match invalid UTF-8"
  | .tooDeep => "exceeds the nesting limit"
  | .tooLarge => "too large"

def Fault.message : Fault → String
  | .tooLarge => "Compiled regex exceeds size limit of 10485760 bytes."
  | fault => "regex parse error: " ++ fault.reason

/-- The flags that are on at a place of the pattern. -/
structure Flags where
  ignoreCase : Bool := false
  multiLine : Bool := false
  dotAll : Bool := false
  swapGreed : Bool := false
  unicode : Bool := true
  crlf : Bool := false
  verbose : Bool := false

/-- Where the reader stands. -/
structure Reader where
  rest : List Char
  flags : Flags := {}
  /-- How many groups have been opened. -/
  groups : Nat := 0
  /-- The names of groups with their numbers. -/
  names : List (String × Nat) := []
  /-- How long the whole pattern is, so that no part of it takes more steps. -/
  length : Nat

abbrev Step := StateT Reader (Except Fault)

/-- How deep the parts of a pattern may be nested. -/
def maxDepth : Nat := 250

/-- How deep something is nested that stands around others with these depths. A part alone stands
for itself. -/
def depthAround : List Nat → Nat
  | [] => 0
  | [d] => d
  | ds => ds.foldl Nat.max 0 + 1

/-- Nothing may be nested too deep. -/
def checkDepth (d : Nat) : Step Unit := if maxDepth < d then throw .tooDeep else pure ()

/-! ### Steps -/

mutual
/-- Drop blanks and comments. -/
def dropSpace : List Char → List Char
  | [] => []
  | c :: cs => if Text.isBlank c then dropSpace cs else if c = '#' then dropComment cs else c :: cs

/-- Drop a comment up to the end of its line, and blanks and comments behind it. -/
def dropComment : List Char → List Char
  | [] => []
  | c :: cs => if c = '\n' then dropSpace cs else dropComment cs
end

/-- The text without the blanks and comments in front, where they do not count. -/
def Flags.skip (f : Flags) (cs : List Char) : List Char := if f.verbose then dropSpace cs else cs

/-- Drop blanks and comments where they do not count. -/
def skipSpace : Step Unit := modify fun s => { s with rest := s.flags.skip s.rest }

def peek : Step (Option Char) := do return (← get).rest.head?

/-- Go on reading at `r`. -/
def moveTo (r : List Char) : Step Unit := modify fun s => { s with rest := r }

/-- Take one character. -/
def bump : Step Unit := modify fun s => { s with rest := s.rest.tail }

/-- Take one character, and the blanks behind it where they do not count. -/
def bumpSpace : Step Unit := do
  bump
  skipSpace

/-- Take this text if it comes next. -/
def takeText (needle : String) : Step Bool := do
  let s ← get
  match Text.strip? needle.toList s.rest with
  | some r => moveTo r; return true
  | none => return false

/-- The characters up to a mark without the blanks that do not count, and the text behind the mark.
`taken` is what has been taken so far, the last character first. -/
def upTo? (f : Flags) (mark : Char) : (fuel : Nat) → (taken cs : List Char) →
    Option (List Char × List Char)
  | 0, _, _ => none
  | fuel + 1, taken, cs =>
    match f.skip cs with
    | [] => none
    | c :: r => if c = mark then some (taken.reverse, r) else upTo? f mark fuel (c :: taken) r

/-- Take the characters up to a mark, and the mark; blanks that do not count are left out. -/
def takeUntil (mark : Char) : Step (Option (List Char)) := do
  let s ← get
  match upTo? s.flags mark (s.length + 1) [] s.rest with
  | none => return none
  | some (cs, r) => moveTo r; return some cs

end Rehearsal.Pattern

import Rehearsal.Json.Parser
import Rehearsal.Yaml.Cursor

/-!
# Scalars in a YAML text

The three ways in which a text is written as a scalar. A plain one stands as it is and ends where
something else may begin, a quoted one ends in its quote, and a block scalar is made of the indented
lines behind its header. Within plain and quoted scalars a gap, which is a run of blanks and line
ends, is folded: a single line end stands for a space, of several the first one is left out, and
blanks around line ends do not count.
-/

namespace Rehearsal.Yaml

/-- How a scalar is written. -/
inductive Style
  | plain
  | quoted
  | literal
  | folded
  deriving DecidableEq, Repr

/-! ### Gaps -/

/-- A run of blanks and line ends. -/
structure Gap where
  /-- The blanks before the first line end. -/
  blanks : List Char := []
  /-- The first line end, if there is one; one that is escaped counts as nothing. -/
  first : Option (List Char) := none
  /-- The line ends after the first one. -/
  more : List Char := []

namespace Gap

def hasBreak (g : Gap) : Bool := g.first.isSome

/-- What the gap stands for. -/
def text (g : Gap) : List Char :=
  match g.first with
  | none => g.blanks
  -- only the line feed is folded, the other line ends stand as they are
  | some ['\n'] => if g.more.isEmpty then [' '] else g.more
  | some first => first ++ g.more

def addBreak (g : Gap) (b : Char) : Gap :=
  if g.hasBreak then { g with more := g.more ++ [b] } else { g with first := some [b] }

/-- Read blanks and line ends. Behind a line end no tab may stand before the column `indent`. -/
def read (indent : Int) : (fuel : Nat) → Gap → Cursor → Except Fault (Gap × Cursor)
  | 0, g, c => .ok (g, c)
  | fuel + 1, g, c =>
    match c.peek? with
    | none => .ok (g, c)
    | some ch =>
      if isBlank ch then
        if !g.hasBreak then read indent fuel { g with blanks := g.blanks ++ [ch] } c.next
        else if ch = '\t' && c.column < indent then
          c.unexpected "found a tab character that violates indentation"
        else read indent fuel g c.next
      else
        match c.takeBreak? with
        | some (b, c) => read indent fuel (g.addBreak b) c
        | none => .ok (g, c)

end Gap

/-! ### Plain scalars -/

/-- A character that ends a plain scalar inside brackets. -/
def isFlowIndicator (c : Char) : Bool := c = ',' || c = '[' || c = ']' || c = '{' || c = '}'

/-- What may not follow a colon inside brackets. -/
def clashesWithColon (c : Char) : Bool := isFlowIndicator c || c = '?'

/-- A word of a plain scalar: up to a blank, a line end, or what ends the scalar. -/
def readPlainWord (inFlow : Bool) : (fuel : Nat) → Cursor → Except Fault (List Char × Cursor)
  | 0, c => .ok ([], c)
  | fuel + 1, c =>
    match c.rest with
    | [] => .ok ([], c)
    | ch :: r =>
      if isBlank ch || isBreak ch then .ok ([], c)
      else if inFlow && ch = ':' && r.head?.any clashesWithColon then
        c.unexpected "found unexpected ':'"
      else if (ch = ':' && endsWord r) || (inFlow && isFlowIndicator ch) then .ok ([], c)
      else (readPlainWord inFlow fuel c.next).map fun (w, c) => (ch :: w, c)

/-- The gap that was read last and the words behind it, with the gaps between them; a gap without a
word behind it does not count. Also tells whether such a gap ends a line. -/
def readPlainFrom (inFlow : Bool) (indent : Int) :
    (fuel : Nat) → Gap → Cursor → Except Fault (List Char × Bool × Cursor)
  | 0, _, c => .ok ([], false, c)
  | fuel + 1, g, c => do
    -- what ends the scalar here leaves out the gap in front of it
    if c.isAtDocumentMark || c.isAt '#' then return ([], g.hasBreak, c)
    let (word, c) ← readPlainWord inFlow fuel c
    let taken := if word.isEmpty then [] else g.text ++ word
    let pending := word.isEmpty && g.hasBreak
    match c.peek? with
    | none => return (taken, pending, c)
    | some ch =>
      if isBlank ch || isBreak ch then
        let (g, c) ← Gap.read indent fuel {} c
        if !inFlow && c.column < indent then return (taken, g.hasBreak, c)
        else
          let (rest, pending, c) ← readPlainFrom inFlow indent fuel g c
          return (taken ++ rest, pending, c)
      else return (taken, pending, c)

/-- Read a plain scalar, whose further lines begin at the column `indent` or behind. -/
def readPlain (inFlow : Bool) (indent : Int) (c : Cursor) :
    Except Fault (List Char × Bool × Cursor) :=
  readPlainFrom inFlow indent (c.rest.length + 1) {} c

/-! ### Quoted scalars -/

def singleQuote : Char := '\x27'

/-- The character that an escape of one letter stands for. -/
def escaped? (c : Char) : Option Char :=
  match c with
  | '0' => some (Char.ofNat 0)
  | 'a' => some (Char.ofNat 7)
  | 'b' => some (Char.ofNat 8)
  | 't' | '\t' => some '\t'
  | 'n' => some '\n'
  | 'v' => some (Char.ofNat 11)
  | 'f' => some (Char.ofNat 12)
  | 'r' => some '\r'
  | 'e' => some (Char.ofNat 27)
  | ' ' => some ' '
  | '"' => some '"'
  | '/' => some '/'
  | '\\' => some '\\'
  | 'N' => some nextLine
  | '_' => some (Char.ofNat 0xA0)
  | 'L' => some lineSeparator
  | 'P' => some paragraphSeparator
  | _ => none

/-- How many hexadecimal digits follow the letter of an escape. -/
def escapeWidth? (c : Char) : Option Nat :=
  match c with
  | 'x' => some 2
  | 'u' => some 4
  | 'U' => some 8
  | _ => none

/-- The number of exactly `count` hexadecimal digits. -/
def hexNumber? (count : Nat) (cs : List Char) : Option Nat :=
  let ds := cs.take count
  if ds.length = count then Text.readHex? ds else none

/-- The character that an escape stands for, and the place behind the escape. -/
def readEscape (c : Cursor) : Except Fault (Char × Cursor) :=
  match c.next.rest with
  | [] => c.unexpected "found unknown escape character"
  | letter :: r =>
    match escaped? letter, escapeWidth? letter with
    | some ch, _ => .ok (ch, c.advance 2)
    | none, none => c.unexpected "found unknown escape character"
    | none, some width =>
      match hexNumber? width r with
      | none => c.unexpected "did not find expected hexdecimal number"
      | some n =>
        if (0xD800 ≤ n ∧ n ≤ 0xDFFF) ∨ 0x10FFFF < n then
          c.unexpected "found invalid Unicode character escape code"
        else .ok (Char.ofNat n, c.advance (width + 2))

/-- A word of a quoted scalar: up to a blank, a line end or the closing quote. Also tells whether it
ends in an escaped line end. -/
def readQuotedWord (quote : Char) :
    (fuel : Nat) → Cursor → Except Fault (List Char × Bool × Cursor)
  | 0, c => .ok ([], false, c)
  | fuel + 1, c =>
    match c.rest with
    | [] => .ok ([], false, c)
    | ch :: r =>
      let more (ch : Char) (c : Cursor) :=
        (readQuotedWord quote fuel c).map fun (w, b, c) => (ch :: w, b, c)
      if isBlank ch || isBreak ch then .ok ([], false, c)
      else if quote = singleQuote then
        if ch = quote then
          -- two single quotes stand for one
          if r.head? = some quote then more quote (c.advance 2) else .ok ([], false, c)
        else more ch c.next
      else if ch = quote then .ok ([], false, c)
      else if ch = '\\' then
        match c.next.takeBreak? with
        | some (_, c) => .ok ([], true, c)
        | none => do
          let (ch, c) ← readEscape c
          more ch c
      else more ch c.next

/-- Words and the gaps between them up to the closing quote. -/
def readQuotedFrom (quote : Char) : (fuel : Nat) → Cursor → Except Fault (List Char × Cursor)
  | 0, c => c.unexpected "found unexpected end of stream"
  | fuel + 1, c => do
    if c.isAtDocumentMark then c.unexpected "found unexpected document indicator"
    else if c.rest.isEmpty then c.unexpected "found unexpected end of stream"
    else
      let (word, escapedBreak, c) ← readQuotedWord quote fuel c
      if c.isAt quote then return (word, c.next)
      else
        let g : Gap := { first := if escapedBreak then some [] else none }
        let (g, c) ← Gap.read 0 fuel g c
        let (rest, c) ← readQuotedFrom quote fuel c
        return (word ++ g.text ++ rest, c)

/-- Read a quoted scalar, which begins with its quote. -/
def readQuoted (quote : Char) (c : Cursor) : Except Fault (List Char × Cursor) :=
  readQuotedFrom quote (c.rest.length + 1) c.next

/-! ### Block scalars -/

/-- What becomes of the line ends behind the last line of a block scalar. -/
inductive Chomping
  | strip
  /-- The first one is kept. -/
  | clip
  | keep
  deriving DecidableEq, Repr

/-- What stands in the header of a block scalar. -/
structure BlockHeader where
  chomping : Chomping := .clip
  /-- How far the lines are indented, if the header says so. -/
  increment : Option Nat := none

def chomping? (c : Char) : Option Chomping :=
  match c with
  | '+' => some .keep
  | '-' => some .strip
  | _ => none

/-- The number of blanks in a header. -/
def readIncrement (c : Cursor) : Except Fault (Option Nat × Cursor) :=
  match c.peek? with
  | some '0' => c.unexpected "found an indentation indicator equal to 0"
  | some ch =>
    if ch.isDigit then .ok (some (ch.toNat - '0'.toNat), c.next) else .ok (none, c)
  | none => .ok (none, c)

/-- What becomes of the line ends at the end, if the header says so. -/
def readChomping (c : Cursor) : Option Chomping × Cursor :=
  match c.peek?.bind chomping? with
  | some k => (some k, c.next)
  | none => (none, c)

/-- Read a header and the rest of its line. -/
def readHeader (c : Cursor) : Except Fault (BlockHeader × Cursor) := do
  -- the two signs of a header come in either order
  let (before, c) := readChomping c
  let (increment, c) ← readIncrement c
  let (after, c) := match before, increment with
    | none, some _ => readChomping c
    | _, _ => (none, c)
  let c := c.skipWhile isBlank
  let c := if c.isAt '#' then c.skipWhile (!isBreak ·) else c
  if endsLine c.rest then
    return ({ chomping := (before.or after).getD .clip, increment }, c.skipBreak)
  else c.unexpected "did not find expected comment or line break"

/-- Skip the indentation and empty lines before the next line of a block scalar. An indentation of
zero is not known yet: it becomes that of the deepest line, and at least one more than `parent`. -/
def readBlockBreaks (parent : Int) :
    (fuel : Nat) → (indent deepest : Nat) → (breaks : List Char) → Cursor →
      Except Fault (Nat × List Char × Cursor)
  | 0, indent, _, breaks, c => .ok (indent, breaks, c)
  | fuel + 1, indent, deepest, breaks, c =>
    let ahead := if indent = 0 then c.rest else c.rest.take (indent - c.column)
    let c := c.advance (ahead.takeWhile (· = ' ')).length
    let deepest := max deepest c.column
    if (indent = 0 || c.column < indent) && c.isAt '\t' then
      c.unexpected "found a tab character where an indentation space is expected"
    else
      match c.takeBreak? with
      | some (b, c) => readBlockBreaks parent fuel indent deepest (breaks ++ [b]) c
      | none =>
        let indent := if indent = 0 then max (max deepest (parent + 1).toNat) 1 else indent
        .ok (indent, breaks, c)

/-- What stands behind a line of a block scalar. -/
structure LineGap where
  /-- The end of the line. -/
  lineEnd : List Char := []
  /-- The line ends behind it. -/
  breaks : List Char := []
  /-- Does the line begin with a blank? -/
  leadingBlank : Bool := false

/-- The text between a line and the next one: two folded lines that both do not begin with a blank
are joined by a space. -/
def LineGap.text (g : LineGap) (folds nextBlank : Bool) : List Char :=
  if folds && g.lineEnd = ['\n'] && !g.leadingBlank && !nextBlank then
    if g.breaks.isEmpty then [' '] else g.breaks
  else g.lineEnd ++ g.breaks

/-- Read the lines of a block scalar behind a gap, and the gap behind the last one of them. -/
def readBlockLines (folds : Bool) (parent : Int) (indent : Nat) :
    (fuel : Nat) → LineGap → Cursor → Except Fault (List Char × LineGap × Cursor)
  | 0, g, c => .ok ([], g, c)
  | fuel + 1, g, c =>
    if c.column = indent && !c.rest.isEmpty then do
      let blank := c.peek?.any isBlank
      let (line, d) := c.takeWhile (!isBreak ·)
      let lineEnd := (d.takeBreak?.map (·.1)).toList
      let (_, breaks, d) ← readBlockBreaks parent (fuel + 1) indent 0 [] d.skipBreak
      let (rest, last, d) ←
        readBlockLines folds parent indent fuel { lineEnd, breaks, leadingBlank := blank } d
      -- how a gap is folded depends on the line behind it, which is this one
      return (g.text folds blank ++ line ++ rest, last, d)
    else .ok ([], g, c)

/-- Read a block scalar, which begins with its sign, in a block that is indented by `parent`. -/
def readBlock (folds : Bool) (parent : Int) (c : Cursor) : Except Fault (List Char × Cursor) := do
  let (header, c) ← readHeader c.next
  let given := match header.increment with
    | some n => (max parent 0 + n).toNat
    | none => 0
  let (indent, breaks, c) ← readBlockBreaks parent (c.rest.length + 1) given 0 [] c
  let (text, last, c) ← readBlockLines folds parent indent (c.rest.length + 1) { breaks } c
  return (text ++ match header.chomping with
    | .strip => []
    | .clip => last.lineEnd
    | .keep => last.lineEnd ++ last.breaks, c)

end Rehearsal.Yaml

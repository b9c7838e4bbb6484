import Rehearsal.Yaml.Scalar
import Rehearsal.Yaml.Tag

/-!
# The tokens of a YAML text

`Token.ofText` cuts a text into tokens. Where a block of more deeply indented lines begins and ends
is a token of its own. A key is known as a key only when its colon has been read: until then its
place among the tokens is kept as a `PendingKey`, and the tokens that announce a key, and a block of
keys, are put in there afterwards. A pending key lapses at the end of its line and after 1024 bytes;
one that stands where a key has to stand must not lapse.
-/

namespace Rehearsal.Yaml

/-- Whether a collection in brackets is a sequence or a mapping. -/
inductive Bracket
  | square
  | curly
  deriving DecidableEq, Repr

inductive Token
  | version (major minor : Nat)
  | tagHandle (handle : String) (expansion : Bytes)
  | documentStart
  | documentEnd
  | blockSequence
  | blockMapping
  | blockEnd
  | flowStart (b : Bracket)
  | flowEnd (b : Bracket)
  | blockEntry
  | flowEntry
  | key
  | value
  | alias (name : String)
  | anchor (name : String)
  | tag (handle : String) (suffix : Bytes)
  | scalar (style : Style) (text : String)
  deriving DecidableEq, Repr

/-! ### Directives -/

/-- A number of a version, of at most nine digits. -/
def readVersionNumber (c : Cursor) : Except Fault (Nat × Cursor) :=
  let (ds, d) := c.takeWhile Char.isDigit
  if ds.isEmpty then c.unexpected "did not find expected version number"
  else if 9 < ds.length then c.unexpected "found extremely long version number"
  else .ok (Decimal.valueOf 0 ds, d)

def readVersion (c : Cursor) : Except Fault (Token × Cursor) := do
  let (major, c) ← readVersionNumber (c.skipWhile isBlank)
  if c.isAt '.' then
    let (minor, c) ← readVersionNumber c.next
    return (.version major minor, c)
  else c.unexpected "did not find expected digit or '.' character"

def readTagHandle (c : Cursor) : Except Fault (Token × Cursor) := do
  let c := c.skipWhile isBlank
  let (handle, d) ← readHandle c
  if handle ≠ ['!'] ∧ handle.getLast? ≠ some '!' then c.unexpected "did not find expected '!'"
  else if d.peek?.any isBlank then
    let (expansion, d) ← readTagText true [] (d.skipWhile isBlank)
    if endsWord d.rest then return (.tagHandle (String.ofList handle) expansion, d)
    else d.unexpected "did not find expected whitespace or line break"
  else d.unexpected "did not find expected whitespace"

/-- Read a directive, which begins with a percent sign, and the rest of its line. -/
def readDirective (c : Cursor) : Except Fault (Token × Cursor) := do
  let (name, d) := c.next.takeWhile isNameChar
  if !endsWord d.rest then d.unexpected "found unexpected non-alphabetical character"
  else
    let (t, d) ←
      match String.ofList name with
      | "YAML" => readVersion d
      | "TAG" => readTagHandle d
      | _ => c.unexpected "found unknown directive name"
    let d := d.skipWhile isBlank
    let d := if d.isAt '#' then d.skipWhile (!isBreak ·) else d
    if endsLine d.rest then return (t, d.skipBreak)
    else d.unexpected "did not find expected comment or line break"

/-- Read the tag of a node. -/
def readTagToken (inFlow : Bool) (c : Cursor) : Except Fault (Token × Cursor) :=
  (readTag inFlow c).map fun (handle, suffix, c) => (.tag handle suffix, c)

/-- The name behind the sign of an anchor or an alias. -/
def readAnchorName (c : Cursor) : Except Fault (String × Cursor) :=
  let (name, d) := c.next.takeWhile isNameChar
  if !name.isEmpty && (endsWord d.rest || d.peek?.any fun ch => "?:,]\x7d%@\x60".contains ch) then
    .ok (String.ofList name, d)
  else d.unexpected "did not find expected alphabetic or numeric character"

/-! ### Cutting a text into tokens -/

/-- The place of what may turn out to be a key. -/
structure PendingKey where
  /-- Is nothing but a key possible here? -/
  required : Bool
  /-- How many tokens stand before it. -/
  position : Nat
  line : Nat
  column : Nat
  /-- How many bytes of its line stand before it. -/
  offset : Nat

/-- How far a text has been cut into tokens. -/
structure Scan where
  cursor : Cursor
  tokens : Array Token := #[]
  /-- The column of the innermost block, -1 outside of all. -/
  indent : Int := -1
  /-- The columns of the blocks around it. -/
  outer : List Int := []
  /-- May a key stand at the next place? -/
  keyAllowed : Bool := true
  /-- The pending keys, one for the blocks and one for every open bracket, the innermost first. -/
  keys : List (Option PendingKey) := [none]

namespace Scan

def inFlow (s : Scan) : Bool := 1 < s.keys.length

def push (s : Scan) (t : Token) : Scan := { s with tokens := s.tokens.push t }

def insert (s : Scan) (position : Nat) (t : Token) : Scan :=
  { s with tokens := s.tokens.insertIdxIfInBounds position t }

/-- A token of so many characters. -/
def sign (s : Scan) (length : Nat) (t : Token) : Scan :=
  { s.push t with cursor := s.cursor.advance length }

def pending? (s : Scan) : Option PendingKey := s.keys.head?.join

def setPending (s : Scan) (k : Option PendingKey) : Scan := { s with keys := k :: s.keys.drop 1 }

/-- Let the innermost pending key lapse. -/
def dropKey (s : Scan) : Except Fault Scan :=
  match s.pending? with
  | some k =>
    if k.required then s.cursor.unexpected "could not find expected ':'"
    else .ok (s.setPending none)
  | none => .ok s

/-- Note that a key may begin here. -/
def noteKey (s : Scan) : Except Fault Scan :=
  if s.keyAllowed then do
    let s ← s.dropKey
    let c := s.cursor
    return s.setPending <| some
      { required := !s.inFlow && s.indent = c.column, position := s.tokens.size, line := c.line
        column := c.column, offset := c.offset }
  else .ok s

/-- Has the pending key been left behind? -/
def isStale (c : Cursor) (k : PendingKey) : Bool := k.line < c.line || k.offset + 1024 < c.offset

/-- Let those of several pending keys lapse that have been left behind. -/
def dropStale (c : Cursor) : List (Option PendingKey) → Except Fault (List (Option PendingKey))
  | [] => .ok []
  | none :: ks => (dropStale c ks).map (none :: ·)
  | some k :: ks => do
    let ks ← dropStale c ks
    if isStale c k then
      if k.required then c.unexpected "could not find expected ':'" else return none :: ks
    else return some k :: ks

/-- Open a block at a column, unless one is open there or behind; its token comes at a place among
the tokens. -/
def openBlock (s : Scan) (column : Nat) (position : Nat) (t : Token) : Scan :=
  if s.inFlow || (column : Int) ≤ s.indent then s
  else { s.insert position t with indent := column, outer := s.indent :: s.outer }

/-- Open a block here. -/
def openBlockHere (s : Scan) (t : Token) : Scan := s.openBlock s.cursor.column s.tokens.size t

/-- Close blocks whose columns are given, the innermost first, that lie behind a column. -/
def closeBlocks (tokens : Array Token) (column indent : Int) :
    List Int → Array Token × Int × List Int
  | [] => (tokens, indent, [])
  | next :: outer =>
    if column < indent then closeBlocks (tokens.push .blockEnd) column next outer
    else (tokens, indent, next :: outer)

/-- Close the blocks that lie behind a column. -/
def closeTo (s : Scan) (column : Int) : Scan :=
  if s.inFlow then s
  else
    let (tokens, indent, outer) := closeBlocks s.tokens column s.indent s.outer
    { s with tokens, indent, outer }

/-- Skip blanks, comments and line ends. A tab counts as a blank only where no key may stand, and a
byte order mark at the start of a line; what follows the mark stands in the second column. -/
def skipToToken : (fuel : Nat) → Scan → Scan
  | 0, s => s
  | fuel + 1, s =>
    let c := s.cursor
    let c := if c.column = 0 && c.isAt byteOrderMark then c.next else c
    let c := c.skipWhile fun ch => ch = ' ' || (ch = '\t' && (s.inFlow || !s.keyAllowed))
    let c := if c.isAt '#' then c.skipWhile (!isBreak ·) else c
    match c.takeBreak? with
    | some (_, c) =>
      skipToToken fuel { s with cursor := c, keyAllowed := s.keyAllowed || !s.inFlow }
    | none => { s with cursor := c }

/-- Close everything at the left margin; no key may stand there. -/
def closeAll (s : Scan) : Except Fault Scan := do
  let s ← (s.closeTo (-1)).dropKey
  return { s with keyAllowed := false }

/-! #### The kinds of tokens -/

def directive (s : Scan) : Except Fault Scan := do
  let s ← s.closeAll
  let (t, cursor) ← readDirective s.cursor
  return { s.push t with cursor }

def documentMark (s : Scan) (t : Token) : Except Fault Scan := return (← s.closeAll).sign 3 t

def openBracket (s : Scan) (b : Bracket) : Except Fault Scan := do
  let s ← s.noteKey
  return { s.sign 1 (.flowStart b) with keys := none :: s.keys, keyAllowed := true }

def closeBracket (s : Scan) (b : Bracket) : Except Fault Scan := do
  let s ← s.dropKey
  let keys := if s.inFlow then s.keys.drop 1 else s.keys
  return { s.sign 1 (.flowEnd b) with keys, keyAllowed := false }

def flowEntry (s : Scan) : Except Fault Scan := do
  let s ← s.dropKey
  return { s.sign 1 .flowEntry with keyAllowed := true }

def blockEntry (s : Scan) : Except Fault Scan :=
  if !s.inFlow && !s.keyAllowed then
    s.cursor.unexpected "block sequence entries are not allowed in this context"
  else do
    let s ← (s.openBlockHere .blockSequence).dropKey
    return { s.sign 1 .blockEntry with keyAllowed := true }

def explicitKey (s : Scan) : Except Fault Scan :=
  if !s.inFlow && !s.keyAllowed then
    s.cursor.unexpected "mapping keys are not allowed in this context"
  else do
    let s ← (s.openBlockHere .blockMapping).dropKey
    return { s.sign 1 .key with keyAllowed := !s.inFlow }

/-- A colon: what is pending was a key, or the colon belongs to an explicit key or to none. -/
def value (s : Scan) : Except Fault Scan :=
  match s.pending? with
  | some k =>
    -- the key was announced by nothing; its tokens go in front of it now
    let s := (s.insert k.position .key).openBlock k.column k.position .blockMapping
    .ok { (s.setPending none).sign 1 .value with keyAllowed := false }
  | none =>
    if !s.inFlow && !s.keyAllowed then
      s.cursor.unexpected "mapping values are not allowed in this context"
    else
      let s := s.openBlockHere .blockMapping
      .ok { s.sign 1 .value with keyAllowed := !s.inFlow }

/-- A token that is read from here on and may begin a key. -/
def keyed (s : Scan) (read : Cursor → Except Fault (Token × Cursor)) : Except Fault Scan := do
  let s ← s.noteKey
  let (t, cursor) ← read s.cursor
  return { s.push t with cursor, keyAllowed := false }

def quoted (s : Scan) (quote : Char) : Except Fault Scan :=
  s.keyed fun c => do
    let (text, c) ← readQuoted quote c
    return (.scalar .quoted (String.ofList text), c)

def blockScalar (s : Scan) (style : Style) : Except Fault Scan := do
  let s ← s.dropKey
  let (text, cursor) ← readBlock (style = .folded) s.indent s.cursor
  return { s.push (.scalar style (String.ofList text)) with cursor, keyAllowed := true }

def plain (s : Scan) : Except Fault Scan := do
  let s ← s.noteKey
  let (text, endsLine, cursor) ← readPlain s.inFlow (s.indent + 1) s.cursor
  return { s.push (.scalar .plain (String.ofList text)) with cursor, keyAllowed := endsLine }

/-- May a plain scalar begin with this character before that text? -/
def beginsPlain (inFlow : Bool) (ch : Char) (r : List Char) : Bool :=
  !(isBlank ch || isBreak ch || "-?:,[]\x7b\x7d#&*!|>'\"%@\x60".contains ch)
    || (ch = '-' && !r.head?.any isBlank)
    || (!inFlow && (ch = '?' || ch = ':') && !endsWord r)

/-- Read one token at its first character. -/
def token (s : Scan) (ch : Char) (r : List Char) : Except Fault Scan :=
  if s.cursor.column = 0 && ch = '%' then s.directive
  else if s.cursor.isAtMark '-' then s.documentMark .documentStart
  else if s.cursor.isAtMark '.' then s.documentMark .documentEnd
  else if ch = '[' then s.openBracket .square
  else if ch = '{' then s.openBracket .curly
  else if ch = ']' then s.closeBracket .square
  else if ch = '}' then s.closeBracket .curly
  else if ch = ',' then s.flowEntry
  else if ch = '-' && endsWord r then s.blockEntry
  else if ch = '?' && (s.inFlow || endsWord r) then s.explicitKey
  else if ch = ':' && (s.inFlow || endsWord r) then s.value
  else if ch = '*' then s.keyed fun c => (readAnchorName c).map fun (n, c) => (.alias n, c)
  else if ch = '&' then s.keyed fun c => (readAnchorName c).map fun (n, c) => (.anchor n, c)
  else if ch = '!' then s.keyed (readTagToken s.inFlow)
  else if ch = '|' && !s.inFlow then s.blockScalar .literal
  else if ch = '>' && !s.inFlow then s.blockScalar .folded
  else if ch = singleQuote || ch = '"' then s.quoted ch
  else if beginsPlain s.inFlow ch r then s.plain
  else s.cursor.unexpected "found character that cannot start any token"

/-- Read tokens up to the end of the text. -/
def run : (fuel : Nat) → Scan → Except Fault (Array Token)
  | 0, s => s.cursor.unexpected "found unexpected end of stream"
  | fuel + 1, s => do
    let s := skipToToken (fuel + 1) s
    let keys ← dropStale s.cursor s.keys
    let s := { s with keys }.closeTo s.cursor.column
    match s.cursor.rest with
    | [] => return (← s.closeAll).tokens
    | ch :: r => run fuel (← s.token ch r)

end Scan

/-- The tokens of a text. -/
def Token.ofText (text : List Char) : Except Fault (List Token) :=
  if text.all isAllowed then
    (Scan.run (text.length + 1) { cursor := { rest := text } }).map Array.toList
  else .error .controlCharacter

end Rehearsal.Yaml

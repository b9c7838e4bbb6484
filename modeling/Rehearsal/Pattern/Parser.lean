import Rehearsal.Pattern.Bracket
import Rehearsal.Pattern.Size
import Rehearsal.Text.Whole

/-!
# Reading patterns

The written form of patterns: characters stand for themselves, apart from
`\ . + * ? ( ) | [ ] { } ^ $`. A group may carry a name or flags; flags hold up to the end of the
group they stand in. There are no back references and no conditions on what stands around a place
apart from those of `Look`, so every pattern can be matched in time linear in the text. What is
written may not be nested too deep, and the pattern may not be too large.
-/

namespace Rehearsal.Pattern

/-- A part of a pattern as it was read: the pattern, how deep its written form is nested, and
whether it only sets flags. -/
structure Part where
  pattern : Pattern
  depth : Nat := 0
  directive : Bool := false

/-- One part after the other. -/
def Part.sequence (parts : List Part) : Part :=
  ⟨Pattern.sequence (parts.map (·.pattern)), depthAround (parts.map (·.depth)), false⟩

/-- The first part that matches. -/
def Part.choice (parts : List Part) : Part :=
  ⟨Pattern.choice (parts.map (·.pattern)), depthAround (parts.map (·.depth)), false⟩

/-! ### Repetition -/

/-- The decimal digits in front, without the blanks that do not count; `taken` are those before, the
last one first. -/
def takeDigits : (fuel : Nat) → (taken : List Char) → Step (List Char)
  | 0, taken => return taken.reverse
  | fuel + 1, taken => do
    match ← peek with
    | some c =>
      if c.isDigit then
        bumpSpace
        takeDigits fuel (c :: taken)
      else return taken.reverse
    | none => return taken.reverse

/-- A number of repetitions with blanks around it; none if there are no digits. -/
def readCount : Step (Option Nat) := do
  modify fun s => { s with rest := Text.trimLeft s.rest }
  let ds ← takeDigits (← get).length []
  modify fun s => { s with rest := Text.trimLeft s.rest }
  skipSpace
  if ds.isEmpty then return none
  match (Text.readDigits (1 <<< 32) 0 ds).toOption with
  | some n => return some n
  | none => throw .count

/-- A question mark that turns the repetition before it into the other kind. -/
def readGreedy : Step Bool := do
  let lazy ← takeText "?"
  return lazy == (← get).flags.swapGreed

/-- The bounds of a repetition in braces; the reader stands behind the opening one. -/
def readBounds : Step (Nat × Option Nat) := do
  skipSpace
  let low ← readCount
  let bounds ← match ← peek with
    | some ',' => do
      bumpSpace
      match low, ← peek with
      | none, _ => throw .count
      | some low, some '}' => pure (low, none)
      | some low, _ => do
        match ← readCount with
        | some high => pure (low, some high)
        | none => throw .count
    | _ =>
      match low with
      | some n => pure (n, some n)
      | none => throw .count
  if (← peek) ≠ some '}' then throw .count
  bumpSpace
  return bounds

/-- The last part again and again, with bounds that are still to be read. -/
def repeatLast (bounds : Step (Nat × Option Nat)) : List Part → Step (List Part)
  | part :: before => do
    if part.directive then throw .nothingToRepeat
    let (min, max) ← bounds
    let greedy ← readGreedy
    if max.any (· < min) then throw .count
    checkDepth (part.depth + 1)
    return ⟨part.pattern.repeated min max greedy, part.depth + 1, false⟩ :: before
  | [] => throw .nothingToRepeat

/-! ### Groups -/

/-- Read flags up to the colon or parenthesis behind them. -/
def readFlags : (fuel : Nat) → (seen : List Char) → (negative : Bool) → Flags → Step Flags
  | 0, _, _, _ => throw .flags
  | fuel + 1, seen, negative, f => do
    match ← peek with
    | none => throw .unclosedGroup
    | some c =>
      if c = ':' ∨ c = ')' then
        if seen.head? = some '-' then throw .flags
        if c = ')' ∧ seen.isEmpty then throw .emptyFlags
        return f
      bump
      if seen.contains c then throw .flags
      let go := readFlags fuel (c :: seen)
      match c with
      | '-' => go true f
      | 'i' => go negative { f with ignoreCase := !negative }
      | 'm' => go negative { f with multiLine := !negative }
      | 's' => go negative { f with dotAll := !negative }
      | 'U' => go negative { f with swapGreed := !negative }
      | 'u' => go negative { f with unicode := !negative }
      | 'R' => go negative { f with crlf := !negative }
      | 'x' => go negative { f with verbose := !negative }
      | _ => throw .flags

/-- May the character stand in the name of a group? -/
def isNameChar (first : Bool) (c : Char) : Bool :=
  if c = '_' then true
  else if first then Text.isAlphabetic c
  else Text.isAlphabetic c || Text.isNumeric c || c = '.' || c = '[' || c = ']'

/-- The name of a group up to its closing angle. -/
def groupName : Step String := do
  let s ← get
  let (name, r) := s.rest.span (· ≠ '>')
  match name, r with
  | c :: cs, '>' :: r =>
    if isNameChar true c && cs.all (isNameChar false) then
      let name := String.ofList name
      if s.names.any (·.1 = name) then throw .duplicateName
      modify fun s => { s with rest := r, names := s.names ++ [(name, s.groups + 1)] }
      return name
    else throw .groupName
  | _, _ => throw .groupName

/-- What an opening parenthesis begins. -/
inductive Opening
  | directive (f : Flags)
  | capture
  | plain (f : Flags)

/-- Read what stands behind an opening parenthesis. -/
def opening : Step Opening := do
  skipSpace
  for look in ["?=", "?!", "?<=", "?<!"] do
    if Text.startsWith look.toList (← get).rest then throw .lookAround
  if (← takeText "?P<") || (← takeText "?<") then
    let _ ← groupName
    return .capture
  else if ← takeText "?" then
    let s ← get
    let f ← readFlags (s.length + 1) [] false s.flags
    let closes := (← peek) = some ')'
    bump
    return if closes then .directive f else .plain f
  else return .capture

/-! ### The whole pattern -/

/-- The pattern of a character, an escape or an anchor outside brackets. -/
def Flags.primitive (f : Flags) : Primitive → Pattern
  | .char c => f.single c
  | .set s => ofSet s
  | .look l => .look l

/-- The pattern of the dot. -/
def Flags.dot (f : Flags) : Except Fault Pattern :=
  if !f.unicode then .error .noUnicode
  else if f.dotAll then .ok (.set .all)
  else if f.crlf then .ok (.set (CharClass.ofChars ['\n', '\r']).compl)
  else .ok (.set (CharClass.single '\n').compl)

/-- The inside of a group up to its closing parenthesis; the flags are then as they were before. -/
def closeGroup (inside : Step Part) (before : Flags) : Step Part := do
  let part ← inside
  match ← peek with
  | some ')' =>
    bump
    modify fun s => { s with flags := before }
    checkDepth (part.depth + 1)
    return { part with depth := part.depth + 1 }
  | _ => throw .unclosedGroup

/-- What an opening parenthesis stands for. `inside` reads what a group holds. -/
def readGroup (inside : Step Part) : Step Part := do
  let f := (← get).flags
  match ← opening with
  | .directive f =>
    modify fun s => { s with flags := f }
    return ⟨.empty, 0, true⟩
  | .capture =>
    modify fun s => { s with groups := s.groups + 1 }
    let index := (← get).groups
    let part ← closeGroup inside f
    return { part with pattern := .group index part.pattern }
  | .plain inner =>
    modify fun s => { s with flags := inner }
    closeGroup inside f

/-- Read on in a branch whose parts so far are `parts`, the last one first; none at its end. -/
def nextPart (inside : Step Part) (parts : List Part) : Step (Option (List Part)) := do
  skipSpace
  let f := (← get).flags
  match ← peek with
  | none | some ')' | some '|' => return none
  | some c =>
    bump
    match c with
    | '(' => return some ((← readGroup inside) :: parts)
    | '[' =>
      let part ← bracketed (maxDepth + 1)
      return some (⟨ofSet part.set, part.depth, false⟩ :: parts)
    | '?' => return some (← repeatLast (pure (0, some 1)) parts)
    | '*' => return some (← repeatLast (pure (0, none)) parts)
    | '+' => return some (← repeatLast (pure (1, none)) parts)
    | '{' => return some (← repeatLast readBounds parts)
    | _ =>
      let p ← match c with
        | '.' => check f.dot
        | '^' => pure (.look (if f.multiLine then .lineStart f.crlf else .start))
        | '$' => pure (.look (if f.multiLine then .lineStop f.crlf else .stop))
        | '\\' => do pure (f.primitive (← escape))
        | c => pure (f.single c)
      return some (⟨p, 0, false⟩ :: parts)

/-- One alternative. -/
def branch (inside : Step Part) : (fuel : Nat) → (parts : List Part) → Step Part
  | 0, parts => return .sequence parts.reverse
  | fuel + 1, parts => do
    match ← nextPart inside parts with
    | none => return .sequence parts.reverse
    | some parts => branch inside fuel parts

/-- Alternatives up to a closing parenthesis or the end; `done` are those before, the last one
first. -/
def alternatives (inside : Step Part) : (fuel : Nat) → (done : List Part) → Step Part
  | 0, done => return .choice done.reverse
  | fuel + 1, done => do
    let part ← branch inside (fuel + 1) []
    if ← takeText "|" then alternatives inside fuel (part :: done)
    else return .choice (part :: done).reverse

/-- A pattern with groups of at most so many levels. -/
def readPattern : (level : Nat) → Step Part
  | 0 => throw .tooDeep
  | level + 1 => do alternatives (readPattern level) ((← get).length + 1) []

/-- A pattern with the names of its groups. -/
structure Named where
  pattern : Pattern
  names : List (String × Nat)

/-- Read a pattern. -/
def parse (s : String) : Except Fault Named := do
  let (part, r) ← (readPattern (maxDepth + 1)).run { rest := s.toList, length := s.length }
  match r.rest with
  | [] =>
    if maxDepth < part.depth then throw .tooDeep
    if part.pattern.fits then return ⟨part.pattern, r.names⟩ else throw .tooLarge
  | _ => throw .unopenedGroup

end Rehearsal.Pattern

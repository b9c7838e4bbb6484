import Rehearsal.Pattern.Escape

/-!
# Classes in brackets

A class in brackets is a set of characters: characters, ranges, escapes, classes of ASCII by name
and further classes in brackets. Sets are joined by standing side by side; `&&`, `--` and `~~` stand
for what two sets have in common, what the first has alone, and what only one of them has, from left
to right.
-/

namespace Rehearsal.Pattern

/-- A set as it was read, and how deep its written form is nested. -/
structure ClassPart where
  set : CharClass
  depth : Nat := 0

/-- What stands side by side. -/
def ClassPart.join (parts : List ClassPart) : ClassPart :=
  ⟨.unions (parts.map (·.set)), depthAround (parts.map (·.depth))⟩

/-- An operator between sets. -/
inductive SetOperator
  | both
  | firstOnly
  | oneOnly

def SetOperator.apply : SetOperator → CharClass → CharClass → CharClass
  | .both => .inter
  | .firstOnly => .diff
  | .oneOnly => .symmDiff

/-- The operator that the text begins with, and the text behind it. -/
def operator? : List Char → Option (SetOperator × List Char)
  | '&' :: '&' :: r => some (.both, r)
  | '-' :: '-' :: r => some (.firstOnly, r)
  | '~' :: '~' :: r => some (.oneOnly, r)
  | _ => none

/-- What stands before the items that are being read: a set and an operator, or nothing. -/
abbrev Left := Option (SetOperator × ClassPart)

/-- The set of the items together with what stands before them. -/
def Flags.combine (f : Flags) (left : Left) (items : ClassPart) : ClassPart :=
  match left with
  | none => items
  | some (op, l) => ⟨op.apply (f.fold l.set) (f.fold items.set), Nat.max l.depth items.depth + 1⟩

/-- A class of ASCII such as `[:alpha:]`, with the text behind it. -/
def asciiItem? (cs : List Char) : Option (Bool × CharClass × List Char) := do
  let r ← Text.strip? "[:".toList cs
  let (negated, r) := match r with
    | '^' :: r => (true, r)
    | r => (false, r)
  let (name, r) := r.span (· ≠ ':')
  let r ← Text.strip? ":]".toList r
  let s ← asciiClass? (String.ofList name)
  return (negated, s, r)

/-- One character or escape inside brackets. -/
def classPrimitive : Step Primitive := do
  match ← peek with
  | none => throw .unclosedClass
  | some c =>
    bump
    if c = '\\' then escape else return .char c

/-- What comes behind a hyphen. Of a comment where it does not count, its first character that is no
blank is taken for that. -/
def Flags.behindHyphen (f : Flags) (cs : List Char) : Option Char :=
  if f.verbose then
    match Text.trimLeft cs with
    | '#' :: r => (Text.trimLeft r).head?
    | r => r.head?
  else cs.head?

/-- Without Unicode a character inside brackets has to be one of ASCII. -/
def Flags.checkChar (f : Flags) (c : Char) : Except Fault Unit :=
  if !f.unicode && c.toNat > 127 then .error .noUnicode else .ok ()

/-- One item inside brackets: a character, a range or an escape. -/
def classItem : Step CharClass := do
  let f := (← get).flags
  let first ← classPrimitive
  skipSpace
  match (← get).rest with
  | [] => throw .unclosedClass
  | c :: r =>
    let after := f.behindHyphen r
    if c ≠ '-' ∨ after = some ']' ∨ after = some '-' then
      match first with
      | .char c =>
        check (f.checkChar c)
        return .single c
      | .set s => return s
      | .look _ => throw .classItem
    bumpSpace
    match first, ← classPrimitive with
    | .char a, .char b =>
      check (f.checkChar a)
      check (f.checkChar b)
      if a ≤ b then return .ofRange a b else throw .emptyRange
    | _, _ => throw .classItem

/-- Take the hyphens that open a class; `taken` are those before. -/
def leadingHyphens : (fuel : Nat) → (taken : List Char) → Step (List Char)
  | 0, taken => return taken
  | fuel + 1, taken => do
    match ← peek with
    | some '-' =>
      bumpSpace
      leadingHyphens fuel ('-' :: taken)
    | _ => return taken

/-- The items up to the closing bracket. `inner` reads a class inside. -/
def classItems (inner : Step ClassPart) : (fuel : Nat) → Left → (items : List ClassPart) →
    Step ClassPart
  | 0, _, _ => throw .unclosedClass
  | fuel + 1, left, items => do
    skipSpace
    let s ← get
    match s.rest, operator? s.rest with
    | [], _ => throw .unclosedClass
    | ']' :: r, _ =>
      moveTo r
      return s.flags.combine left (.join items)
    | _, some (op, r) =>
      moveTo r
      let l := s.flags.combine left (.join items)
      checkDepth l.depth
      classItems inner fuel (some (op, l)) []
    | '[' :: r, none =>
      match asciiItem? s.rest with
      | some (negated, t, r) =>
        moveTo r
        let t ← check (s.flags.finish negated t)
        classItems inner fuel left (⟨t, 0⟩ :: items)
      | none =>
        moveTo r
        let t ← inner
        classItems inner fuel left (t :: items)
    | _, none =>
      let t ← classItem
      classItems inner fuel left (⟨t, 0⟩ :: items)

/-- A class in brackets of at most so many levels; the reader stands behind the opening bracket. A
hyphen or a closing bracket right at the beginning stands for itself. -/
def bracketed : (level : Nat) → Step ClassPart
  | 0 => throw .tooDeep
  | level + 1 => do
    skipSpace
    let negated := (← peek) = some '^'
    if negated then bumpSpace
    let n := (← get).length
    let first ← match ← leadingHyphens n [], ← peek with
      | [], some ']' => do
        bumpSpace
        pure [']']
      | hyphens, _ => pure hyphens
    let items := first.map fun c => ClassPart.mk (.single c) 0
    let part ← classItems (bracketed level) (n + 1) none items
    let s ← check ((← get).flags.finish negated part.set)
    checkDepth (part.depth + 1)
    return ⟨s, part.depth + 1⟩

end Rehearsal.Pattern

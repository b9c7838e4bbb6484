import Rehearsal.Pattern.Basic

/-!
# Patterns in normal form

Patterns are put together so that equal ways of writing come out as the same pattern. A sequence has
no empty parts, no sequences in it and no two texts side by side (`sequence`). A choice has no
choices in it; if it is between sets or between single characters it is a set, and what all its
branches begin with stands in front of it (`choice`). A set of one character is a text (`ofSet`).
What is repeated once is not repeated, and what takes no characters is repeated once at most
(`repeated`).
-/

namespace Rehearsal.Pattern

/-- One character of a set. -/
def ofSet (s : CharClass) : Pattern :=
  match s.single? with
  | some c => .text [c]
  | none => .set s

/-! ### Sequence -/

/-- Put a part in front of others; two texts become one. -/
def cons : Pattern → List Pattern → List Pattern
  | .text a, .text b :: ps => .text (a ++ b) :: ps
  | p, ps => p :: ps

/-- Nest the parts of a sequence. -/
def nestSeq (ps : List Pattern) : Pattern :=
  match ps.reverse with
  | [] => .empty
  | p :: before => before.foldl (fun rest p => .seq p rest) p

/-- One pattern after the other. -/
def sequence (ps : List Pattern) : Pattern := nestSeq ((ps.flatMap items).foldr cons [])

/-! ### Choice -/

/-- Nest the branches of a choice. -/
def nestAlt (ps : List Pattern) : Pattern :=
  match ps.reverse with
  | [] => never
  | p :: before => before.foldl (fun rest p => .alt p rest) p

/-- The only character of a text of one character. -/
def char? : Pattern → Option Char
  | .text [c] => some c
  | _ => none

/-- The set of a pattern that is one character of a set. -/
def set? : Pattern → Option CharClass
  | .set s => some s
  | _ => none

/-- The parts of a sequence of at least two. -/
def sequence? : Pattern → Option (List Pattern)
  | .seq p q => some (p :: q.items)
  | _ => none

/-- What two lists begin with in common. -/
def commonStart : List Pattern → List Pattern → List Pattern
  | p :: ps, q :: qs => if p = q then p :: commonStart ps qs else []
  | _, _ => []

/-- What several sequences begin with in common. -/
def commonStarts : List (List Pattern) → List Pattern
  | [] => []
  | ps :: others => others.foldl commonStart ps

/-- The first of the patterns that matches. Every round takes something off all branches, so no
more rounds are needed than the branches have parts. -/
def choiceOf : (fuel : Nat) → List Pattern → Pattern
  | 0, ps => nestAlt ps
  | fuel + 1, ps =>
    match ps.flatMap branches with
    | [] => never
    | [p] => p
    | ps =>
      match ps.mapM char?, ps.mapM set? with
      | some cs, _ => ofSet (.ofChars cs)
      | none, some sets => ofSet (.unions sets)
      | none, none =>
        match ps.mapM sequence? with
        | none => nestAlt ps
        | some parts =>
          match commonStarts parts with
          | [] => nestAlt ps
          | front =>
            let rests := parts.map fun part => sequence (part.drop front.length)
            sequence (front ++ [choiceOf fuel rests])

/-- The first of the patterns that matches. -/
def choice (ps : List Pattern) : Pattern := choiceOf ((ps.map count).foldl (· + ·) 1) ps

/-! ### Repetition -/

/-- A pattern again and again: at least `min` times, and at most `max` times if there is a limit. -/
def repeated (p : Pattern) (min : Nat) (max : Option Nat) (greedy : Bool) : Pattern :=
  let (min, max) :=
    if p.takesNothing then (Nat.min min 1, some (Nat.min (max.getD 1) 1)) else (min, max)
  if max = some 0 then .empty
  else if min = 1 ∧ max = some 1 then p
  else .times p min max greedy

end Rehearsal.Pattern

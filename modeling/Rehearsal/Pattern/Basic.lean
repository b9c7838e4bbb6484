import Rehearsal.CharClass.Basic

/-!
# Patterns

A pattern describes texts: it is built from texts, sets of characters, assertions about a place
(`Look`), numbered groups, sequence, choice and repetition. Choice and repetition are ordered: of
the ways in which a pattern matches at a place the first one counts, a greedy repetition going on
before it stops and a lazy one stopping before it goes on.
-/

namespace Rehearsal

/-- A condition on a place of a text. Of a line end, `crlf` counts a carriage return, a line feed
and both together, and `lf` a line feed. -/
inductive Look
  | start
  | stop
  | lineStart (crlf : Bool)
  | lineStop (crlf : Bool)
  /-- A boundary of a word of `set`: between two characters of which one belongs to it. -/
  | boundary (set : CharClass)
  | noBoundary (set : CharClass)
  | wordStart (set : CharClass)
  | wordStop (set : CharClass)
  | noWordBefore (set : CharClass)
  | noWordAfter (set : CharClass)
  deriving DecidableEq

/-- Does the condition hold between these two characters, where none means an end of the text? -/
def Look.holds (before after : Option Char) : Look → Bool
  | .start => before.isNone
  | .stop => after.isNone
  | .lineStart false => before.all (· = '\n')
  | .lineStop false => after.all (· = '\n')
  | .lineStart true => before.all fun c => c = '\n' || (c = '\r' && after != some '\n')
  | .lineStop true => after.all fun c => c = '\r' || (c = '\n' && before != some '\r')
  | .boundary s => before.any s.mem != after.any s.mem
  | .noBoundary s => before.any s.mem == after.any s.mem
  | .wordStart s => !before.any s.mem && after.any s.mem
  | .wordStop s => before.any s.mem && !after.any s.mem
  | .noWordBefore s => !before.any s.mem
  | .noWordAfter s => !after.any s.mem

/-- What a text is matched against. -/
inductive Pattern
  | empty
  /-- These characters, one after the other. -/
  | text (cs : List Char)
  /-- One character of the set. -/
  | set (s : CharClass)
  | look (l : Look)
  | group (index : Nat) (p : Pattern)
  | seq (p q : Pattern)
  | alt (p q : Pattern)
  /-- At least `min` times, and at most `max` times if there is a limit. -/
  | times (p : Pattern) (min : Nat) (max : Option Nat) (greedy : Bool)
  deriving DecidableEq

namespace Pattern

/-- What never matches. -/
def never : Pattern := .set .empty

/-- Can the pattern match without taking a character? -/
def nullable : Pattern → Bool
  | .empty => true
  | .text cs => cs.isEmpty
  | .set _ => false
  | .look _ => true
  | .group _ p => p.nullable
  | .seq p q => p.nullable && q.nullable
  | .alt p q => p.nullable || q.nullable
  | .times p min _ _ => min = 0 || p.nullable

/-- Does every match of the pattern take no character? -/
def takesNothing : Pattern → Bool
  | .empty => true
  | .text cs => cs.isEmpty
  | .set _ => false
  | .look _ => true
  | .group _ p => p.takesNothing
  | .seq p q => p.takesNothing && q.takesNothing
  | .alt p q => p.takesNothing && q.takesNothing
  | .times p _ _ _ => p.takesNothing

/-- How many characters a match takes at least; none if a part of the pattern never matches. -/
def least : Pattern → Option Nat
  | .empty => some 0
  | .text cs => some cs.length
  | .set s => if s.isEmpty then none else some 1
  | .look _ => some 0
  | .group _ p => p.least
  | .seq p q => do return (← p.least) + (← q.least)
  | .alt p q => do return Nat.min (← p.least) (← q.least)
  | .times p min _ _ => do return min * (← p.least)

/-- Does every match begin at the start of the text, as far as the assertions in front tell? -/
def beginsAtStart : Pattern → Bool
  | .look .start => true
  | .group _ p => p.beginsAtStart
  | .seq p q => p.beginsAtStart || (p.takesNothing && q.beginsAtStart)
  | .alt p q => p.beginsAtStart && q.beginsAtStart
  | .times p min _ _ => 0 < min && p.beginsAtStart
  | _ => false

/-- Does every match end at the end of the text, as far as the assertions at its end tell? -/
def endsAtStop : Pattern → Bool
  | .look .stop => true
  | .group _ p => p.endsAtStop
  | .seq p q => q.endsAtStop || (q.takesNothing && p.endsAtStop)
  | .alt p q => p.endsAtStop && q.endsAtStop
  | .times p min _ _ => 0 < min && p.endsAtStop
  | _ => false

/-- The parts of a pattern that stand one after the other. -/
def items : Pattern → List Pattern
  | .empty => []
  | .seq p q => p :: q.items
  | p => [p]

/-- The patterns between which a pattern has the choice. -/
def branches : Pattern → List Pattern
  | .alt p q => p :: q.branches
  | p => [p]

/-- How many patterns a pattern is made of. -/
def count : Pattern → Nat
  | .group _ p => p.count + 1
  | .seq p q => p.count + q.count + 1
  | .alt p q => p.count + q.count + 1
  | .times p _ _ _ => p.count + 1
  | _ => 1

end Pattern
end Rehearsal

import Rehearsal.Pattern.Parser

/-!
# Programs of patterns

A pattern is turned into a program: an array of instructions that test a character, test a place,
note a place or fork, the first way of a fork being the preferred one. A program is built from its
end to its beginning, so that an instruction knows where it goes on; only the fork of a loop is
put in before its body and completed afterwards.
-/

namespace Rehearsal.Pattern

/-- One instruction; it goes on at the instruction `next`. -/
inductive Instruction
  | test (s : CharClass) (next : Nat)
  | look (l : Look) (next : Nat)
  | note (slot : Nat) (next : Nat)
  | fork (preferred other : Nat)
  | done

abbrev Build := StateM (Array Instruction)

/-- Put an instruction in, and give its place. -/
def emit (i : Instruction) : Build Nat := fun code => (code.size, code.push i)

/-- The fork at a repetition: greedy ones prefer another round. -/
def forkOf (greedy : Bool) (body stop : Nat) : Instruction :=
  if greedy then .fork body stop else .fork stop body

/-- So many copies, one after the other, which then go on at `next`. -/
def copies (body : Nat → Build Nat) : (n next : Nat) → Build Nat
  | 0, next => pure next
  | n + 1, next => do copies body n (← body next)

/-- So many more copies in front of those at `next`; each of them may be left out together with what
is behind it, and then it goes on at `stop`. -/
def optionals (greedy : Bool) (body : Nat → Build Nat) (stop : Nat) : (n next : Nat) → Build Nat
  | 0, next => pure next
  | n + 1, next => do optionals greedy body stop n (← emit (forkOf greedy (← body next) stop))

/-- One or more rounds before `stop`: the place of the body, and that of the fork behind it. -/
def loop (greedy : Bool) (body : Nat → Build Nat) (stop : Nat) : Build (Nat × Nat) := do
  let fork ← emit (.fork stop stop)
  let entry ← body fork
  modify fun code => code.setIfInBounds fork (forkOf greedy entry stop)
  return (entry, fork)

/-- The instructions of a pattern that go on at `next`; gives the place where they begin. -/
def build : Pattern → (next : Nat) → Build Nat
  | .empty, next => pure next
  | .text cs, next => cs.foldrM (fun c next => emit (.test (.single c) next)) next
  | .set s, next => emit (.test s next)
  | .look l, next => emit (.look l next)
  | .group i p, next => do
    let stop ← emit (.note (2 * i + 1) next)
    emit (.note (2 * i) (← build p stop))
  | .seq p q, next => do build p (← build q next)
  | .alt p q, next => do
    let other ← build q next
    emit (.fork (← build p next) other)
  | .times p 0 none greedy, next => do
    let (entry, fork) ← loop greedy (build p) next
    if p.nullable then emit (forkOf greedy entry next) else return fork
  | .times p (n + 1) none greedy, next => do
    let (entry, _) ← loop greedy (build p) next
    copies (build p) n entry
  | .times p min (some max) greedy, next => do
    copies (build p) min (← optionals greedy (build p) next (max - min) next)

/-- A pattern ready for matching. -/
structure Program where
  code : Array Instruction
  start : Nat
  /-- How many places a match notes: two for each group and two for the whole match. -/
  slots : Nat
  names : List (String × Nat)

/-- The greatest number of a group. -/
def maxGroup : Pattern → Nat
  | .group i p => Nat.max i p.maxGroup
  | .seq p q => Nat.max p.maxGroup q.maxGroup
  | .alt p q => Nat.max p.maxGroup q.maxGroup
  | .times p _ _ _ => p.maxGroup
  | _ => 0

/-- The program of a pattern. The whole match is group zero. -/
def Named.program (p : Named) : Program :=
  let (start, code) := (do build (.group 0 p.pattern) (← emit .done)).run #[]
  { code, start, slots := 2 * (p.pattern.maxGroup + 1), names := p.names }

/-- Read a pattern and make its program. -/
def compile (s : String) : Except Fault Program := (parse s).map Named.program

end Rehearsal.Pattern

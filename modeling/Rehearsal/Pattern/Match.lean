import Rehearsal.Pattern.Program

/-!
# Matching

A program is run over a text with one list of threads, in order of preference; two threads never
stand at the same instruction, as the first one speaks for both. So each character of the text
costs at most one pass over the program. `search` finds the first place at which the pattern
matches, and there the preferred match; `matches` finds all matches from left to right without
overlap, an empty one never directly behind another match.
-/

namespace Rehearsal.Pattern

/-- The places noted so far. -/
abbrev Slots := Array (Option Nat)

structure Thread where
  place : Nat
  slots : Slots

/-- The threads at one place of the text, and the instructions that have been visited. -/
structure Agenda where
  seen : Array Bool
  threads : Array Thread := #[]

namespace Program

/-- Follow threads up to the instructions that test a character or are done, each with all that it
leads to before the next one. No instruction is visited twice, and a visit puts two threads in the
place of one at most, so the threads and twice the instructions are enough fuel. -/
def follow (prog : Program) (before after : Option Char) (pos : Nat) :
    (fuel : Nat) → List Thread → Agenda → Agenda
  | 0, _, agenda => agenda
  | _ + 1, [], agenda => agenda
  | fuel + 1, t :: ts, agenda =>
    -- an earlier thread at this place is preferred, and speaks for this one
    if agenda.seen[t.place]?.getD true then follow prog before after pos fuel ts agenda
    else
      let agenda := { agenda with seen := agenda.seen.setIfInBounds t.place true }
      match prog.code[t.place]? with
      | none => follow prog before after pos fuel ts agenda
      | some (.look l next) =>
        let ts := if l.holds before after then { t with place := next } :: ts else ts
        follow prog before after pos fuel ts agenda
      | some (.note slot next) =>
        let t := { place := next, slots := t.slots.setIfInBounds slot (some pos) }
        follow prog before after pos fuel (t :: ts) agenda
      | some (.fork preferred other) =>
        follow prog before after pos fuel
          ({ t with place := preferred } :: { t with place := other } :: ts) agenda
      | some (.test _ _) | some .done =>
        follow prog before after pos fuel ts { agenda with threads := agenda.threads.push t }

/-- All that the threads lead to at one place of the text. -/
def gather (prog : Program) (before after : Option Char) (pos : Nat) (ts : List Thread) :
    List Thread :=
  let fresh : Agenda := { seen := Array.replicate prog.code.size false }
  (prog.follow before after pos (ts.length + 2 * prog.code.size + 1) ts fresh).threads.toList

def isDone (prog : Program) (t : Thread) : Bool :=
  match prog.code[t.place]? with
  | some .done => true
  | _ => false

/-- Where a thread stands after a character. -/
def step? (prog : Program) (c : Char) (t : Thread) : Option Thread :=
  match prog.code[t.place]? with
  | some (.test s next) => if s.mem c then some { t with place := next } else none
  | _ => none

/-- The thread that begins a match. -/
def fresh (prog : Program) : Thread := ⟨prog.start, Array.replicate prog.slots none⟩

/-- The first match in the text that stands at `pos` behind `before`. While there is no match, one
may begin at every place; once there is one, only preferred threads are followed. -/
def searchFrom (prog : Program) (before : Option Char) (pos : Nat) (ts : List Thread)
    (found : Option Slots) : List Char → Option Slots
  | [] =>
    let ts := prog.gather before none pos (if found.isSome then ts else ts ++ [prog.fresh])
    ((ts.find? prog.isDone).map (·.slots)).or found
  | c :: cs =>
    let ts := prog.gather before (some c) pos (if found.isSome then ts else ts ++ [prog.fresh])
    let found := ((ts.find? prog.isDone).map (·.slots)).or found
    -- threads behind one that is done are no longer preferred to its match
    let ts := ts.takeWhile (fun t => !prog.isDone t)
    if ts.isEmpty && found.isSome then found
    else searchFrom prog (some c) (pos + 1) (ts.filterMap (prog.step? c)) found cs

/-- Does the pattern match anywhere in the text? -/
def isMatch (prog : Program) (cs : List Char) : Bool := (prog.searchFrom none 0 [] none cs).isSome

end Program

/-- A match: the places it has noted, and its own two ends. -/
structure Match where
  start : Nat
  stop : Nat
  slots : Slots

/-- The match of these places, if it is complete. -/
def Match.ofSlots? (slots : Slots) : Option Match := do
  let start ← (← slots[0]?)
  let stop ← (← slots[1]?)
  return { start, stop, slots }

/-- What a group of the match covers in the whole text. -/
def Match.group? (m : Match) (text : List Char) (i : Nat) : Option (List Char) := do
  let start ← (← m.slots[2 * i]?)
  let stop ← (← m.slots[2 * i + 1]?)
  return (text.drop start).take (stop - start)

namespace Program

/-- The first match in the rest of a text. -/
def search (prog : Program) (before : Option Char) (pos : Nat) (rest : List Char) : Option Match :=
  (prog.searchFrom before pos [] none rest).bind Match.ofSlots?

/-- The matches in the rest of a text, where the last match ended at `last`. -/
def matchesFrom (prog : Program) : (fuel : Nat) → (before : Option Char) → (pos : Nat) →
    (rest : List Char) → (last : Option Nat) → List Match
  | 0, _, _, _, _ => []
  | fuel + 1, before, pos, rest, last =>
    match prog.search before pos rest with
    | none => []
    | some m =>
      -- an empty match directly behind the last one is not counted
      if m.start = m.stop ∧ last = some m.stop then
        match rest with
        | [] => []
        | c :: cs => matchesFrom prog fuel (some c) (pos + 1) cs last
      else
        let n := m.stop - pos
        let before := if n = 0 then before else rest[n - 1]?
        m :: matchesFrom prog fuel before m.stop (rest.drop n) (some m.stop)

/-- All matches in a text. Every match but the first either takes a character or stands behind one
that was skipped, so there are no more rounds than twice the characters. -/
def allMatches (prog : Program) (text : List Char) : List Match :=
  prog.matchesFrom (2 * text.length + 4) none 0 text none

/-- Put something else in the place of each of these matches of a text. -/
def replaceMatches (new : Match → List Char) (pos : Nat) (rest : List Char) :
    List Match → List Char
  | [] => rest
  | m :: ms =>
    rest.take (m.start - pos) ++ new m
      ++ replaceMatches new m.stop (rest.drop (m.stop - pos)) ms

/-- Put something else in the place of each match. -/
def replaceAll (prog : Program) (new : Match → List Char) (text : List Char) : List Char :=
  replaceMatches new 0 text (prog.allMatches text)

/-- Where the pattern matches nowhere, nothing is replaced. -/
theorem replaceAll_of_isMatch_eq_false {prog : Program} {new : Match → List Char}
    {text : List Char} (h : prog.isMatch text = false) : prog.replaceAll new text = text := by
  have hs : prog.searchFrom none 0 [] none text = none := by simpa [isMatch] using h
  have hm : prog.allMatches text = [] := by simp [allMatches, matchesFrom, search, hs]
  simp [replaceAll, hm, replaceMatches]

end Program

/-! ### Replacement texts -/

/-- What the text of a group reference covers: a number, or else a name. -/
def Program.reference (prog : Program) (text : List Char) (m : Match) (name : List Char) :
    List Char :=
  let index : Option Nat := match Text.readNatural? name with
    | some i => some i
    | none => (prog.names.find? (·.1 = String.ofList name)).map (·.2)
  (index.bind (m.group? text)).getD []

/-- The replacement text for a match: `$name` and `${name}` stand for what a group covers, a group
that is not there covers nothing, and `$$` stands for a dollar sign. -/
def Program.expand (prog : Program) (text : List Char) (m : Match) : List Char → List Char
  | [] => []
  | '$' :: '$' :: r => '$' :: expand prog text m r
  | '$' :: '{' :: r =>
    match h : r.dropWhile (· ≠ '}') with
    | _ :: r' =>
      have := Text.length_lt_of_dropWhile h
      prog.reference text m (r.takeWhile (· ≠ '}')) ++ expand prog text m r'
    -- a brace that is not closed begins no reference
    | [] => '$' :: expand prog text m ('{' :: r)
  | '$' :: r =>
    match r.takeWhile Text.isAsciiWord with
    | [] => '$' :: expand prog text m r
    | name =>
      have := Text.length_dropWhile_le Text.isAsciiWord r
      prog.reference text m name ++ expand prog text m (r.dropWhile Text.isAsciiWord)
  | c :: r => c :: expand prog text m r
termination_by cs => cs.length

end Rehearsal.Pattern

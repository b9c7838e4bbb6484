import Std.Data.HashMap
import Rehearsal.Pattern.Bytes
import Rehearsal.Pattern.Normal

/-!
# The size of patterns

A pattern may not be too large when it is spelled out as an automaton over bytes, once from the
front to the back with its groups, and once from the back to the front without them. A state takes
32 bytes, a state that leads on by ranges of bytes eight more for each range, and a state that forks
four more for each branch; all together may not take more than ten mebibytes. `fits` tells whether a
pattern keeps to that.

The automaton is not built: what counts is how many states there are and how far they fork. The
number that a state has is needed only where sets of characters beyond ASCII share states: the
states of a set that lead to the same places by the same bytes are one state, as far as a table of
the latest ones remembers them.
-/

namespace Rehearsal.Pattern.Sizing

/-- How much of an automaton there is: its states, and the bytes that they take beyond their fixed
size. -/
structure Extent where
  states : Nat := 0
  extra : Nat := 0

namespace Extent

/-- How many bytes an automaton may take. -/
def limit : Nat := 10 * 1024 * 1024

def bytes (e : Extent) : Nat := 32 * e.states + e.extra

def add (e f : Extent) : Extent := ⟨e.states + f.states, e.extra + f.extra⟩

end Extent

/-! ### Sets of characters -/

/-- A way from a state to another: the bounds of its byte, and the number of the state behind. -/
abbrev Way := Nat × Nat × Nat

/-- A number mixed into a hash. -/
def mix (h : UInt64) (n : Nat) : UInt64 := (h ^^^ n.toUInt64) * 1099511628211

/-- The place of some numbers in a table of a given size. -/
def slot (size : Nat) (ns : List Nat) : Nat := (ns.foldl mix 14695981039346656037).toNat % size

/-- The states of a set so far. `known` remembers the latest state of each place of a table. -/
structure Sharing (α : Type) where
  next : Nat
  extra : Nat
  known : Std.HashMap Nat (α × Nat)

/-- The number of the state that is described by `key`: a new one if the table does not know it. -/
def Sharing.state {α : Type} [BEq α] (b : Sharing α) (key : α) (place extra : Nat) :
    Nat × Sharing α :=
  let new : Nat × Sharing α :=
    (b.next, ⟨b.next + 1, b.extra + extra, b.known.insert place (key, b.next)⟩)
  match b.known[place]? with
  | some (key', n) => if key' == key then (n, b) else new
  | none => new

/-- A state that may get more ways: those that are complete, and the bounds of the last one, whose
goal is not known yet. -/
structure Pending where
  ways : List Way
  last : Option (Nat × Nat)

/-- The ways of a state when the goal of the last one is known. -/
def Pending.complete (p : Pending) (goal : Nat) : List Way :=
  match p.last with
  | some (low, high) => p.ways ++ [(low, high, goal)]
  | none => p.ways

/-- Complete a chain of states from its end; the last one leads to `goal`. Gives the number of the
first one. -/
def complete (goal : Nat) (b : Sharing (List Way)) : List Pending → Nat × Sharing (List Way)
  | [] => (goal, b)
  | p :: ps =>
    let (n, b) := complete goal b ps
    let ways := p.complete n
    let place := slot 10000 (ways.flatMap fun (low, high, n) => [low, high, n])
    b.state ways place (8 * ways.length)

/-- Lead a sequence of bytes along the chain of states as far as it agrees with the one before; what
the one before has behind that is complete. -/
def lead (goal : Nat) (b : Sharing (List Way)) :
    List (Nat × Nat) → List Pending → List Pending × Sharing (List Way)
  | r :: rs, p :: ps =>
    if p.last = some r then
      let (ps, b) := lead goal b rs ps
      (p :: ps, b)
    else
      let (n, b) := complete goal b ps
      (⟨p.complete n, some r⟩ :: rs.map fun r => ⟨[], some r⟩, b)
  | _, ps => (ps, b)

/-- What a set beyond ASCII takes from the front to the back, behind `states` states: one state
behind the set, and the states in front of it, with equal ones shared. -/
def forwardExtent (states : Nat) (sequences : List (List (Nat × Nat))) : Extent :=
  let (ps, b) := sequences.foldl (fun (ps, b) s => lead states b s ps)
    ([⟨[], none⟩], ⟨states + 1, 0, ∅⟩)
  let (_, b) := complete states b ps
  ⟨b.next - states, b.extra⟩

/-- What a set beyond ASCII takes from the back to the front: a fork with one branch for each
sequence, one state behind the set, and one state for each byte, with equal ends shared. -/
def backwardExtent (states : Nat) (sequences : List (List (Nat × Nat))) : Extent :=
  let back (nb : Nat × Sharing (Nat × Nat × Nat)) (r : Nat × Nat) :=
    nb.2.state (nb.1, r.1, r.2) (slot 1000 [nb.1, r.1, r.2]) 0
  let b := sequences.foldl (fun b s => (s.foldl back (states + 1, b)).2)
    (⟨states + 2, 0, ∅⟩ : Sharing (Nat × Nat × Nat))
  ⟨b.next - states, 4 * sequences.length⟩

/-- What a set takes behind `states` states. -/
def setExtent (backward : Bool) (states : Nat) (s : CharClass) : Extent :=
  if s.isAscii then ⟨2, 8 * s.ranges.size⟩
  else if backward then backwardExtent states s.byteRanges
  else forwardExtent states s.byteRanges

/-! ### Choices between texts -/

/-- Cut a list of words behind each empty one; the empty ones in front count once. -/
def cutAtEmpty (words : List (List UInt8)) : List (List (List UInt8)) :=
  words.foldr (fun w parts =>
    match w, parts with
    | [], parts => [] :: parts
    | w, part :: parts => (w :: part) :: parts
    | w, [] => [[w]]) [[]]

/-- The words of a place of a tree of words, cut where one of them ends. -/
def partsOf (words : List (List UInt8)) : List (List (List UInt8)) :=
  match words with
  | [] :: ws => [] :: cutAtEmpty (ws.dropWhile (·.isEmpty))
  | ws => cutAtEmpty ws

/-- The words by their first bytes, without them. -/
def byFirst (words : List (List UInt8)) : List (List (List UInt8)) :=
  let sorted := words.mergeSort fun v w => v.headD 0 ≤ w.headD 0
  (sorted.splitBy fun v w => v.headD 0 == w.headD 0).map (·.map List.tail)

/-- What the places of a tree of words take: each place at which words go on is a fork between its
parts and the ends between them, and each part leads on by its first bytes. -/
def treeExtent : (fuel : Nat) → List (List (List UInt8)) → Extent → Extent
  | 0, _, e => e
  | _ + 1, [], e => e
  | fuel + 1, words :: places, e =>
    let parts := partsOf words
    let groups := (parts.filter (!·.isEmpty)).map byFirst
    let leading := groups.foldl (fun n g => if g.length = 1 then n else n + 8 * g.length) 0
    let onward := groups.flatten.filter fun words => words.any (!·.isEmpty)
    treeExtent fuel (onward ++ places)
      (e.add ⟨groups.length + 1, leading + 4 * (groups.length + (parts.length - 1))⟩)

/-- What a choice between texts takes. A tree has no more places than the texts have bytes. -/
def textsExtent (backward : Bool) (texts : List (List Char)) : Extent :=
  let words := texts.map fun cs =>
    let bytes := cs.flatMap String.utf8EncodeChar
    if backward then bytes.reverse else bytes
  treeExtent (words.flatten.length + 1) [words] ⟨1, 0⟩

/-! ### Patterns -/

/-- A count of what has been built, which fails where it is too much. -/
abbrev Count := StateT Extent Option

/-- Build some more. -/
def build (new : Extent) : Count Unit := fun e =>
  let e := e.add new
  if e.bytes ≤ Extent.limit then some ((), e) else none

/-- Build some states without branches. -/
def buildStates (n : Nat) : Count Unit := build ⟨n, 0⟩

/-- Build a fork with some branches. -/
def buildFork (branches : Nat) : Count Unit := build ⟨1, 4 * branches⟩

/-- Lead on behind what has been built. If it ends in a fork, that takes one more branch. -/
def leadOn (fork : Bool) : Count Unit := if fork then build ⟨0, 4⟩ else pure ()

/-- So many more copies behind what has been built. -/
def buildCopies (body : Count Bool) : (n : Nat) → (fork : Bool) → Count Bool
  | 0, fork => pure fork
  | n + 1, fork => do
    let next ← body
    leadOn fork
    buildCopies body n next

/-- So many copies. -/
def buildExactly (body : Count Bool) : (n : Nat) → Count Bool
  | 0 => do
    buildStates 1
    pure false
  | n + 1 => do buildCopies body n (← body)

/-- So many copies, each of which may be left out together with those behind it. -/
def buildOptional (body : Count Bool) : (n : Nat) → (fork : Bool) → Count Bool
  | 0, fork => pure fork
  | n + 1, fork => do
    buildFork 2
    let next ← body
    leadOn fork
    buildOptional body n next

/-- Where a pattern stands: by itself, or as a branch of a choice. The second branch of a choice
comes with the fork and the end of the choice, and knows whether the first one ends in a fork. -/
inductive Place
  | alone
  | second (fork : Bool)
  | later

/-- Attach a pattern that has been built to the choice it belongs to. -/
def Place.attach (fork : Bool) : Place → Count Bool
  | .alone => pure fork
  | .second first => do
    buildFork 2
    buildStates 1
    leadOn first
    leadOn fork
    pure false
  | .later => do
    build ⟨0, 4⟩
    leadOn fork
    pure false

/-- Build a repetition of `body`. -/
def buildRepeated (body : Count Bool) (taking : Bool) : (min : Nat) → (max : Option Nat) →
    Count Bool
  | 0, none =>
    if taking then do
      buildFork 1
      leadOn (← body)
      pure true
    else do
      let fork ← body
      buildFork 2
      leadOn fork
      buildFork 2
      buildStates 1
      pure false
  | n + 1, none => do
    let before ← if n = 0 then pure false else buildExactly body n
    let fork ← body
    buildFork 1
    leadOn before
    leadOn fork
    pure true
  | 0, some 1 => do
    buildFork 2
    let fork ← body
    buildStates 1
    leadOn fork
    pure false
  | min, some max => do
    let fork ← buildExactly body min
    if min = max then pure fork
    else do
      buildStates 1
      let fork ← buildOptional body (max - min) fork
      leadOn fork
      pure false

/-- The text of a pattern that is one. -/
def text? : Pattern → Option (List Char)
  | .text cs => some cs
  | _ => none

/-- Build a pattern, and tell whether it ends in a fork. -/
def buildPattern (backward : Bool) : Pattern → Place → Count Bool
  | .empty, place => do
    buildStates 1
    place.attach false
  | .text cs, place => do
    buildStates (cs.flatMap String.utf8EncodeChar).length
    place.attach false
  | .set s, place => do
    build (setExtent backward (← get).states s)
    place.attach false
  | .look _, place => do
    buildStates 1
    place.attach false
  | .group _ p, place =>
    if backward then do place.attach (← buildPattern backward p .alone)
    else do
      buildStates 1
      let fork ← buildPattern backward p .alone
      buildStates 1
      leadOn fork
      place.attach false
  | .seq p q, place =>
    if backward then do
      let behind ← buildPattern backward q .alone
      let fork ← buildPattern backward p .alone
      leadOn behind
      place.attach fork
    else do
      let before ← buildPattern backward p .alone
      let fork ← buildPattern backward q .alone
      leadOn before
      place.attach fork
  | .alt p q, .alone =>
    match (p :: q.branches).mapM text? with
    | some texts => do
      build (textsExtent backward texts)
      pure false
    | none => do
      let fork ← buildPattern backward p .alone
      buildPattern backward q (.second fork)
  | .alt p q, place => do
    let _ ← buildPattern backward p place
    buildPattern backward q .later
  | .times p min max _, place => do
    let body := buildPattern backward p .alone
    let taking := p.least.any (0 < ·)
    place.attach (← buildRepeated body taking min max)

/-- Build the automaton of a pattern. Unless the pattern holds on to an end of the text, it comes
with a loop that passes over what stands before a match. -/
def buildAll (backward : Bool) (p : Pattern) : Count Unit := do
  let held := if backward then p.endsAtStop else p.beginsAtStart
  if held then buildStates 1 else build ⟨3, 12⟩
  if backward then leadOn (← buildPattern backward p .alone)
  else
    let _ ← buildPattern backward (.group 0 p) .alone
  buildStates 1
  leadOn !held

end Sizing

/-- A choice between thousands of texts is looked up in a dictionary of them, without an
automaton. -/
def isDictionary (p : Pattern) : Bool :=
  3000 ≤ p.branches.length && p.branches.all fun q => (Sizing.text? q).isSome

/-- Is the pattern small enough? -/
def fits (p : Pattern) : Bool :=
  p.isDictionary
    || (((Sizing.buildAll false p).run {}).isSome && ((Sizing.buildAll true p).run {}).isSome)

end Rehearsal.Pattern

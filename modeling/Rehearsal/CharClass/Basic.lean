import Rehearsal.Text.Hexadecimal
import Rehearsal.Text.Search

/-!
# Sets of characters

A set of characters is kept as ranges of code points, in ascending order, of which no two overlap or
touch; so whether a character belongs to a set takes a binary search, and a set can be spelled out
range by range. The sets are closed under `union`, `inter`, `diff`, `symmDiff` and `compl`. A table
of characters is written as a text: `ofText "41-5A 61 100-106/2"` holds the letters from A to Z, the
letter a, and every second code point from 100 to 106.
-/

namespace Rehearsal

/-- A set of characters: ranges of code points in ascending order, none of which touches the
next. -/
structure CharClass where
  ranges : Array (Nat × Nat)
  deriving DecidableEq

namespace CharClass

/-- The greatest code point. -/
def last : Nat := 0x10FFFF

/-- The code point of the next character; there are no characters at the surrogates. -/
def next (n : Nat) : Nat := if n = 0xD7FF then 0xE000 else n + 1

/-- The code point of the character before. -/
def previous (n : Nat) : Nat := if n = 0xE000 then 0xD7FF else n - 1

/-- The ranges of a set, from the least to the greatest. -/
def toList (s : CharClass) : List (Nat × Nat) := s.ranges.toList

/-! ### Members -/

/-- Is the code point in one of the ranges with the numbers from `low` up to `high`? -/
def searchRanges (ranges : Array (Nat × Nat)) (n low high : Nat) : Bool :=
  if _h : low < high then
    match ranges[(low + high) / 2]? with
    | none => false
    | some (a, b) =>
      if n < a then searchRanges ranges n low ((low + high) / 2)
      else if b < n then searchRanges ranges n ((low + high) / 2 + 1) high
      else true
  else false
termination_by high - low
decreasing_by all_goals omega

/-- Is the code point in the set? -/
def has (s : CharClass) (n : Nat) : Bool := searchRanges s.ranges n 0 s.ranges.size

/-- Does the character belong to the set? -/
def mem (c : Char) (s : CharClass) : Bool := s.has c.toNat

/-! ### Building sets -/

/-- Put a range in front of others, none of which begins before it. Where it touches the first of
them, the two become one. -/
def join (r : Nat × Nat) : List (Nat × Nat) → List (Nat × Nat)
  | [] => [r]
  | s :: rest => if s.1 ≤ r.2 + 1 then join (r.1, Nat.max r.2 s.2) rest else r :: s :: rest

/-- The set of the code points in any of these ranges. -/
def ofRanges (rs : List (Nat × Nat)) : CharClass :=
  ⟨((rs.mergeSort fun a b => a.1 ≤ b.1).foldr join []).toArray⟩

def empty : CharClass := ⟨#[]⟩

/-- The characters from `low` to `high`. -/
def ofRange (low high : Char) : CharClass := ⟨#[(low.toNat, high.toNat)]⟩

def single (c : Char) : CharClass := ofRange c c

def ofChars (cs : List Char) : CharClass := ofRanges (cs.map fun c => (c.toNat, c.toNat))

/-- All characters. -/
def all : CharClass := ⟨#[(0, last)]⟩

/-- The characters of ASCII. -/
def ascii : CharClass := ⟨#[(0, 0x7F)]⟩

def isEmpty (s : CharClass) : Bool := s.ranges.isEmpty

/-- Are all characters of the set in ASCII? -/
def isAscii (s : CharClass) : Bool := s.ranges.back?.all fun r => r.2 ≤ 0x7F

/-- The only character of a set with one character. -/
def single? (s : CharClass) : Option Char :=
  match s.toList with
  | [(a, b)] => if a = b then some (Char.ofNat a) else none
  | _ => none

/-! ### Operations -/

def union (a b : CharClass) : CharClass := ofRanges (a.toList ++ b.toList)

/-- The characters of several sets. -/
def unions (sets : List CharClass) : CharClass := ofRanges (sets.flatMap toList)

/-- What two lists of ranges have in common. -/
def meet : List (Nat × Nat) → List (Nat × Nat) → List (Nat × Nat)
  | [], _ => []
  | _ :: _, [] => []
  | (a, b) :: rs, (c, d) :: ss =>
    let rest := if b < d then meet rs ((c, d) :: ss) else meet ((a, b) :: rs) ss
    if Nat.max a c ≤ Nat.min b d then (Nat.max a c, Nat.min b d) :: rest else rest
termination_by rs ss => rs.length + ss.length
decreasing_by all_goals (simp only [List.length_cons]; omega)

def inter (a b : CharClass) : CharClass := ⟨(meet a.toList b.toList).toArray⟩

/-- What is left of ranges when others are taken out. -/
def without : List (Nat × Nat) → List (Nat × Nat) → List (Nat × Nat)
  | [], _ => []
  | r :: rs, [] => r :: rs
  | (a, b) :: rs, (c, d) :: ss =>
    if d < a then without ((a, b) :: rs) ss
    else if b < c then (a, b) :: without rs ((c, d) :: ss)
    else
      let rest :=
        if d < b then without ((next d, b) :: rs) ss else without rs ((c, d) :: ss)
      if a < c then (a, previous c) :: rest else rest
termination_by rs ss => rs.length + ss.length
decreasing_by all_goals (simp only [List.length_cons]; omega)

/-- The characters of `a` that are not in `b`. -/
def diff (a b : CharClass) : CharClass := ⟨(without a.toList b.toList).toArray⟩

/-- The characters of one of the sets, but not of both. -/
def symmDiff (a b : CharClass) : CharClass := (a.union b).diff (a.inter b)

/-- The range between two code points, in whichever order they come. -/
def between (a b : Nat) : Nat × Nat := if a ≤ b then (a, b) else (b, a)

/-- The gaps behind a range that ends at `high`. The gap between a range that ends right before the
surrogates and one that begins right behind them is made of these two ends. -/
def gaps (high : Nat) : List (Nat × Nat) → List (Nat × Nat)
  | [] => if high < last then [(next high, last)] else []
  | (a, b) :: rest => between (next high) (previous a) :: gaps b rest

/-- The characters that are not in the set. -/
def compl (s : CharClass) : CharClass :=
  match s.toList with
  | [] => all
  | (a, b) :: rest => ⟨((if 0 < a then [(0, previous a)] else []) ++ gaps b rest).toArray⟩

/-! ### Tables -/

/-- The range that is written in a piece of a table: a code point, two with a hyphen in between, or
these with `/2` behind them, for every second code point. What is no hexadecimal number counts as
zero. -/
def written (piece : List Char) : List (Nat × Nat) :=
  let number (cs : List Char) : Nat := (Text.readHex? cs).getD 0
  match Text.splitOnce? '-' piece with
  | none => [(number piece, number piece)]
  | some (low, high) =>
    match Text.splitOnce? '/' high with
    | none => [(number low, number high)]
    | some (high, _) =>
      let low := number low
      (List.range ((number high - low) / 2 + 1)).map fun i => (low + 2 * i, low + 2 * i)

/-- The set of a table: its pieces stand apart by blanks and line ends. -/
def ofText (table : String) : CharClass :=
  let pieces := Text.splitOn ' ' (table.toList.map fun c => if c = '\n' then ' ' else c)
  ofRanges ((pieces.filter (!·.isEmpty)).flatMap written)

end CharClass
end Rehearsal

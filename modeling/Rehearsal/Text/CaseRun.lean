/-!
# Runs of letters of two cases

In the tables of letter case the code points of a run stand one or two apart, and each is mapped by
adding one shift. `mapRuns` maps a code point by the first run it is in.
-/

namespace Rehearsal.Text

/-- Code points from `low` to `high`, `step` apart, which are mapped by adding `shift`. -/
structure CaseRun where
  low : Nat
  high : Nat
  step : Nat
  shift : Int

/-- The image of a code point under a run, if it is in it. -/
def CaseRun.map? (r : CaseRun) (n : Nat) : Option Nat :=
  if r.low ≤ n ∧ n ≤ r.high ∧ (n - r.low) % r.step = 0 then some ((n : Int) + r.shift).toNat
  else none

/-- The code point of a run that is mapped to `n`, if there is one. -/
def CaseRun.source? (r : CaseRun) (n : Nat) : Option Nat :=
  let m : Int := n - r.shift
  if m < 0 then none
  else
    let m := m.toNat
    if r.low ≤ m ∧ m ≤ r.high ∧ (m - r.low) % r.step = 0 then some m else none

/-- The code points of a run with their images. -/
def CaseRun.pairs (r : CaseRun) : List (Nat × Nat) :=
  (List.range ((r.high - r.low) / r.step + 1)).map fun i =>
    (r.low + r.step * i, (((r.low + r.step * i : Nat) : Int) + r.shift).toNat)

/-- The image of a code point under the first run it is in; by default itself. -/
def mapRuns (runs : Array CaseRun) (n : Nat) : Nat := (runs.findSome? (·.map? n)).getD n

end Rehearsal.Text

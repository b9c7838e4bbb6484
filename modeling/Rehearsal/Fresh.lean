import Rehearsal.Error
import Rehearsal.Timestamp
import Rehearsal.Uuid

/-!
# Random numbers and the clock

What a test case takes from outside itself is a value: `Fresh` holds the state of a generator of
random numbers and the present time. A `Draw` is a computation that may take random numbers, look
at the clock and fail.
-/

namespace Rehearsal

/-- The state of the generator of random numbers, and the present time. -/
structure Fresh where
  state : UInt64 := 0
  now : Timestamp := ⟨0, 0⟩
  deriving Inhabited

namespace Fresh

/-- Mix the bits of a word so that every bit of the result hangs on every bit of the word. -/
def mix (w : UInt64) : UInt64 :=
  let w := (w ^^^ (w >>> 30)) * 0xBF58476D1CE4E5B9
  let w := (w ^^^ (w >>> 27)) * 0x94D049BB133111EB
  w ^^^ (w >>> 31)

/-- A random word, and the state after it. -/
def next (f : Fresh) : UInt64 × Fresh :=
  let state := f.state + 0x9E3779B97F4A7C15
  (mix state, { f with state })

end Fresh

/-- A computation that may take random numbers, look at the clock and fail. -/
abbrev Draw := StateT Fresh (Except Error)

namespace Draw

/-- A random number of 64 bits. -/
def word : Draw Nat := modifyGet fun f => let (w, f) := f.next; (w.toNat, f)

/-- A random number below `bound`; zero if there is none. -/
def below (bound : Nat) : Draw Nat := return (← word) % bound

/-- A random identifier. -/
def uuid : Draw Uuid := do
  let high ← word
  let low ← word
  return Uuid.random (high <<< 64 + low)

/-- The present time. -/
def now : Draw Timestamp := return (← get).now

end Draw
end Rehearsal

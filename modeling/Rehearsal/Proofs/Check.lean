/-!
# Checks taken apart

A check gives a value or what is wrong. One that is composed succeeds if both of its parts do, and
one whose value is changed if it does without the change.
-/

namespace Rehearsal

section
variable {ε α β : Type} {x : Except ε α} {b : β}

/-- Both checks succeed. -/
theorem check_bind_eq_ok {f : α → Except ε β} :
    x >>= f = .ok b ↔ ∃ a, x = .ok a ∧ f a = .ok b := by
  constructor
  · intro h
    cases x with
    | error e => cases h
    | ok a => exact ⟨a, rfl, h⟩
  · rintro ⟨a, rfl, h⟩
    exact h

theorem check_map_eq_ok {f : α → β} : x.map f = .ok b ↔ ∃ a, x = .ok a ∧ f a = b := by
  cases x <;> simp [Except.map]

theorem check_map_eq_error {f : α → β} {e : ε} :
    x.map f = .error e ↔ ∃ e', x = .error e' ∧ e' = e := by
  cases x <;> simp [Except.map]

end

end Rehearsal

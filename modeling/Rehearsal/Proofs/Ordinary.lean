import Rehearsal.Proofs.Draw
import Rehearsal.Proofs.Outcome

/-!
# Ordinary errors

An error is ordinary if it neither has come out of an action nor says that a name refers to nothing.
A computation is ordinary if all its errors are; every computation that is put together from
ordinary ones is ordinary itself. `Keeps` says the same of computations with a state, together with
an invariant of the state and a property of the value.
-/

namespace Rehearsal

namespace Error

/-- The error is not wrapped with the name of an action, and is not about a name that refers to
nothing. -/
def IsOrdinary : Error → Prop
  | .execution .. => False
  | .referenceNotFound .. => False
  | _ => True

/-- The cause of the error is a name that refers to nothing. -/
def IsDangling (e : Error) : Prop := ∃ name kind, e.rootCause = .referenceNotFound name kind

/-- An ordinary error is its own cause, and no name that refers to nothing. -/
theorem not_isDangling {e : Error} (h : e.IsOrdinary) : ¬ e.IsDangling := by
  rintro ⟨name, kind, he⟩
  cases e with
  | execution action cause => exact h
  | referenceNotFound name kind => exact h
  | _ => cases he

end Error

/-- All errors of a check are ordinary. -/
def OnlyOrdinary {α : Type} (x : Except Error α) : Prop := ∀ e, x = .error e → e.IsOrdinary

namespace OnlyOrdinary

variable {α β : Type}

theorem ok (a : α) : OnlyOrdinary (.ok a) := fun _ h => nomatch h

theorem error {e : Error} (h : e.IsOrdinary) : OnlyOrdinary (.error e : Except Error α) := by
  intro e' he
  cases he
  exact h

theorem bind {x : Except Error α} {f : α → Except Error β} (hx : OnlyOrdinary x)
    (hf : ∀ a, OnlyOrdinary (f a)) : OnlyOrdinary (x >>= f) := by
  cases x with
  | error e => exact error (hx e rfl)
  | ok a => exact hf a

theorem map {x : Except Error α} (f : α → β) (hx : OnlyOrdinary x) : OnlyOrdinary (x.map f) := by
  cases x with
  | error e => exact error (hx e rfl)
  | ok a => exact ok (f a)

/-- A check of several things fails as the first of them that fails. -/
theorem mapM {f : α → Except Error β} (hf : ∀ a, OnlyOrdinary (f a)) (as : List α) :
    OnlyOrdinary (as.mapM f) := by
  induction as with
  | nil => exact ok []
  | cons a as ih =>
    rw [List.mapM_cons]
    exact bind (hf a) fun b => bind ih fun bs => ok (b :: bs)

end OnlyOrdinary

/-! ## Draws -/

namespace Draw

variable {α β : Type}

/-- All errors of the draw are ordinary. -/
def IsOrdinary (d : Draw α) : Prop := ∀ fresh, OnlyOrdinary (d.run fresh)

theorem isOrdinary_pure (a : α) : IsOrdinary (pure a) := fun _ => .ok _

theorem isOrdinary_throw {e : Error} (h : e.IsOrdinary) : IsOrdinary (throw e : Draw α) :=
  fun _ => .error h

theorem isOrdinary_liftM {x : Except Error α} (h : OnlyOrdinary x) :
    IsOrdinary (liftM x : Draw α) := fun _ e he => h e (run_liftM_eq_error.1 he)

theorem isOrdinary_bind {x : Draw α} {f : α → Draw β} (hx : IsOrdinary x)
    (hf : ∀ a, IsOrdinary (f a)) : IsOrdinary (x >>= f) := by
  intro fresh e he
  rcases run_bind_eq_error.1 he with he | ⟨a, fresh', -, he⟩
  · exact hx fresh e he
  · exact hf a fresh' e he

/-- What comes after a check may rely on its value. -/
theorem isOrdinary_liftM_bind {x : Except Error α} {f : α → Draw β} (hx : OnlyOrdinary x)
    (hf : ∀ a, x = .ok a → IsOrdinary (f a)) : IsOrdinary (liftM x >>= f) := by
  cases x with
  | error e => exact fun _ => .error (hx e rfl)
  | ok a => exact hf a rfl

theorem isOrdinary_word : IsOrdinary word := fun _ _ h => nomatch h

theorem isOrdinary_below (bound : Nat) : IsOrdinary (below bound) :=
  isOrdinary_bind isOrdinary_word fun _ => isOrdinary_pure _

theorem isOrdinary_uuid : IsOrdinary uuid :=
  isOrdinary_bind isOrdinary_word fun _ => isOrdinary_bind isOrdinary_word fun _ =>
    isOrdinary_pure _

theorem isOrdinary_now : IsOrdinary now := fun _ _ h => nomatch h

end Draw

/-! ## Computations with a state -/

section
variable {σ α β : Type}

/-- From a state with the invariant the computation leaves a state with the invariant; its value has
a property, and its errors have one. -/
structure Keeps (I : σ → Prop) (P : Error → Prop) (Q : α → Prop) (x : ExceptT Error (StateM σ) α) :
    Prop where
  ok : ∀ s a s', I s → outcome x s = (.ok a, s') → I s' ∧ Q a
  error : ∀ s e s', I s → outcome x s = (.error e, s') → I s' ∧ P e

variable {I : σ → Prop} {P : Error → Prop} {Q : α → Prop} {R : β → Prop}

theorem keeps_pure {a : α} (h : Q a) : Keeps I P Q (pure a) := by
  constructor
  · intro s a' s' hs hx
    cases hx
    exact ⟨hs, h⟩
  · intro s e s' hs hx
    cases hx

theorem keeps_throw {e : Error} (h : P e) : Keeps I P Q (throw e) := by
  constructor
  · intro s a s' hs hx
    cases hx
  · intro s e' s' hs hx
    cases hx
    exact ⟨hs, h⟩

/-- The second computation may rely on the property of the value that it gets. -/
theorem keeps_bind {x : ExceptT Error (StateM σ) α} {f : α → ExceptT Error (StateM σ) β}
    (hx : Keeps I P Q x) (hf : ∀ a, Q a → Keeps I P R (f a)) : Keeps I P R (x >>= f) := by
  constructor
  · intro s b s' hs h
    obtain ⟨a, s'', hxs, h⟩ := outcome_bind_eq_ok.1 h
    obtain ⟨hs'', ha⟩ := hx.ok s a s'' hs hxs
    exact (hf a ha).ok s'' b s' hs'' h
  · intro s e s' hs h
    rcases outcome_bind_eq_error.1 h with h | ⟨a, s'', hxs, h⟩
    · exact hx.error s e s' hs h
    · obtain ⟨hs'', ha⟩ := hx.ok s a s'' hs hxs
      exact (hf a ha).error s'' e s' hs'' h

/-- The state that is looked at has the invariant. -/
theorem keeps_get : Keeps I P I (get : ExceptT Error (StateM σ) σ) := by
  constructor
  · intro s a s' hs h
    cases h
    exact ⟨hs, hs⟩
  · intro s e s' hs h
    cases h

theorem keeps_modify {f : σ → σ} (h : ∀ s, I s → I (f s)) :
    Keeps I P (fun _ => True) (modify f : ExceptT Error (StateM σ) PUnit) := by
  constructor
  · intro s a s' hs hx
    cases hx
    exact ⟨h s hs, trivial⟩
  · intro s e s' hs hx
    cases hx

theorem keeps_set {s' : σ} (h : I s') :
    Keeps I P (fun _ => True) (set s' : ExceptT Error (StateM σ) PUnit) := by
  constructor
  · intro s a s'' hs hx
    cases hx
    exact ⟨h, trivial⟩
  · intro s e s'' hs hx
    cases hx

/-- A computation that only takes random numbers leaves a state with the invariant. -/
theorem keeps_of_draw {x : ExceptT Error (StateM σ) α} {d : σ → Draw α} {fresh : σ → Fresh}
    {put : σ → Fresh → σ} (hok : ∀ s a f, (d s).run (fresh s) = .ok (a, f) →
      outcome x s = (.ok a, put s f))
    (herror : ∀ s e, (d s).run (fresh s) = .error e → outcome x s = (.error e, s))
    (hput : ∀ s f, I s → I (put s f)) (hd : ∀ s, I s → (d s).IsOrdinary) :
    Keeps I Error.IsOrdinary (fun _ => True) x := by
  constructor
  · intro s a s' hs hx
    cases hr : (d s).run (fresh s) with
    | ok r =>
      rw [hok s r.1 r.2 hr] at hx
      cases hx
      exact ⟨hput s r.2 hs, trivial⟩
    | error e =>
      rw [herror s e hr] at hx
      cases hx
  · intro s e s' hs hx
    cases hr : (d s).run (fresh s) with
    | ok r =>
      rw [hok s r.1 r.2 hr] at hx
      cases hx
    | error e' =>
      rw [herror s e' hr] at hx
      cases hx
      exact ⟨hs, hd s hs _ e hr⟩

end
end Rehearsal

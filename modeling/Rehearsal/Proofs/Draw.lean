import Rehearsal.Fresh
import Rehearsal.Proofs.Check

/-!
# Outcomes of draws

A draw that is run gives a value with the random numbers that are left, or an error. The lemmas here
take a composed draw apart: it succeeds if both parts do, one after the other, and its error is that
of the first part that fails.
-/

namespace Rehearsal

variable {α β : Type}

namespace Draw

theorem run_pure (a : α) (fresh : Fresh) :
    (pure a : Draw α).run fresh = .ok (a, fresh) := rfl

theorem run_liftM_ok (a : α) (fresh : Fresh) :
    (liftM (Except.ok a : Except Error α) : Draw α).run fresh = .ok (a, fresh) := rfl

theorem run_liftM_error (e : Error) (fresh : Fresh) :
    (liftM (Except.error e : Except Error α) : Draw α).run fresh = .error e := rfl

theorem run_bind_of_ok {x : Draw α} {f : α → Draw β} {fresh fresh' : Fresh} {a : α}
    (h : x.run fresh = .ok (a, fresh')) : (x >>= f).run fresh = (f a).run fresh' := by
  rw [StateT.run_bind, h]
  rfl

theorem run_bind_of_error {x : Draw α} {f : α → Draw β} {fresh : Fresh} {e : Error}
    (h : x.run fresh = .error e) : (x >>= f).run fresh = .error e := by
  rw [StateT.run_bind, h]
  rfl

/-- Both parts succeed, the second one with the random numbers that the first one leaves. -/
theorem run_bind_eq_ok {x : Draw α} {f : α → Draw β} {fresh : Fresh} {r : β × Fresh} :
    (x >>= f).run fresh = .ok r
      ↔ ∃ a fresh', x.run fresh = .ok (a, fresh') ∧ (f a).run fresh' = .ok r := by
  constructor
  · intro h
    cases hx : x.run fresh with
    | error e => rw [run_bind_of_error hx] at h; cases h
    | ok p => exact ⟨p.1, p.2, rfl, by rw [← h, run_bind_of_ok hx]⟩
  · rintro ⟨a, fresh', hx, hf⟩
    rw [run_bind_of_ok hx, hf]

/-- The first part fails, or the second one does after it. -/
theorem run_bind_eq_error {x : Draw α} {f : α → Draw β} {fresh : Fresh} {e : Error} :
    (x >>= f).run fresh = .error e ↔ x.run fresh = .error e
      ∨ ∃ a fresh', x.run fresh = .ok (a, fresh') ∧ (f a).run fresh' = .error e := by
  constructor
  · intro h
    cases hx : x.run fresh with
    | error e' =>
      rw [run_bind_of_error hx] at h
      cases h
      exact .inl rfl
    | ok p => exact .inr ⟨p.1, p.2, rfl, by rw [← h, run_bind_of_ok hx]⟩
  · rintro (hx | ⟨a, fresh', hx, hf⟩)
    · exact run_bind_of_error hx
    · rw [run_bind_of_ok hx, hf]

/-- What needs no random numbers leaves them all. -/
theorem run_liftM_eq_ok {x : Except Error α} {fresh : Fresh} {r : α × Fresh} :
    (liftM x : Draw α).run fresh = .ok r ↔ x = .ok r.1 ∧ r.2 = fresh := by
  obtain ⟨a, fresh'⟩ := r
  cases x with
  | error e => rw [run_liftM_error]; simp
  | ok b => rw [run_liftM_ok]; simp [eq_comm]

theorem run_liftM_eq_error {x : Except Error α} {fresh : Fresh} {e : Error} :
    (liftM x : Draw α).run fresh = .error e ↔ x = .error e := by
  cases x with
  | error e' => rw [run_liftM_error]; simp
  | ok b => rw [run_liftM_ok]; simp

/-! ## Lists -/

section List
variable {γ : Type} {f : γ → Draw β} {a : γ} {as : List γ} {fresh : Fresh}

/-- Draws one after the other succeed if the first one does and the rest after it. -/
theorem run_mapM_cons_eq_ok {bs : List β} {fresh' : Fresh} :
    ((a :: as).mapM f).run fresh = .ok (bs, fresh')
      ↔ ∃ b fresh₁ bs', (f a).run fresh = .ok (b, fresh₁)
      ∧ (as.mapM f).run fresh₁ = .ok (bs', fresh') ∧ bs = b :: bs' := by
  rw [List.mapM_cons, run_bind_eq_ok]
  constructor
  · rintro ⟨b, fresh₁, hb, h⟩
    obtain ⟨bs', fresh₂, hbs, he⟩ := run_bind_eq_ok.1 h
    cases he
    exact ⟨b, fresh₁, bs', hb, hbs, rfl⟩
  · rintro ⟨b, fresh₁, bs', hb, hbs, rfl⟩
    exact ⟨b, fresh₁, hb, run_bind_eq_ok.2 ⟨bs', fresh', hbs, rfl⟩⟩

/-- They fail with the error of the first one, or of the rest after it. -/
theorem run_mapM_cons_eq_error {e : Error} : ((a :: as).mapM f).run fresh = .error e
    ↔ (f a).run fresh = .error e
      ∨ ∃ b fresh₁, (f a).run fresh = .ok (b, fresh₁) ∧ (as.mapM f).run fresh₁ = .error e := by
  rw [List.mapM_cons, run_bind_eq_error]
  simp only [run_bind_eq_error, run_pure, reduceCtorEq, and_false, exists_false, or_false]

/-- Each of the draws gives one value. -/
theorem length_of_run_mapM {bs : List β} {fresh' : Fresh}
    (h : (as.mapM f).run fresh = .ok (bs, fresh')) : bs.length = as.length := by
  induction as generalizing fresh bs with
  | nil =>
    rw [List.mapM_nil, run_pure] at h
    cases h
    rfl
  | cons a as ih =>
    obtain ⟨b, fresh₁, bs', -, hbs, rfl⟩ := run_mapM_cons_eq_ok.1 h
    rw [List.length_cons, List.length_cons, ih hbs]

/-- The error of draws one after the other is that of the first one that fails. -/
theorem run_mapM_eq_error {e : Error} : (as.mapM f).run fresh = .error e
    ↔ ∃ before a after bs fresh₁, as = before ++ a :: after
      ∧ (before.mapM f).run fresh = .ok (bs, fresh₁) ∧ (f a).run fresh₁ = .error e := by
  induction as generalizing fresh with
  | nil =>
    constructor
    · intro h
      rw [List.mapM_nil, run_pure] at h
      cases h
    · rintro ⟨before, a, after, -, -, h, -⟩
      cases before <;> cases h
  | cons a as ih =>
    simp only [run_mapM_cons_eq_error, ih]
    constructor
    · -- nothing stands before the first one, and the first one stands before all that fail later
      rintro (ha | ⟨b, fresh₁, hb, before, a', after, bs, fresh₂, rfl, hbs, he⟩)
      · exact ⟨[], a, as, [], fresh, rfl, rfl, ha⟩
      · exact ⟨a :: before, a', after, b :: bs, fresh₂, rfl,
          run_mapM_cons_eq_ok.2 ⟨b, fresh₁, bs, hb, hbs, rfl⟩, he⟩
    · rintro ⟨before, a', after, bs, fresh₁, h, hbs, he⟩
      cases before with
      | nil =>
        cases h
        cases hbs
        exact .inl he
      | cons _ before =>
        cases h
        obtain ⟨b, fresh₂, bs', hb, hbs', rfl⟩ := run_mapM_cons_eq_ok.1 hbs
        exact .inr ⟨b, fresh₂, hb, before, a', after, bs', fresh₁, rfl, hbs', he⟩

end List

/-- A random identifier can always be taken. -/
theorem exists_run_uuid (fresh : Fresh) : ∃ id fresh', uuid.run fresh = .ok (id, fresh') :=
  ⟨_, _, rfl⟩

end Draw
end Rehearsal

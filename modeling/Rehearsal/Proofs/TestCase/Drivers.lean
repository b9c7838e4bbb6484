import Rehearsal.Proofs.TestCase

/-!
# What the drivers of a test case do

A test case is run at once, or a runner is started on it, runs actions one by one and is finished.
The lemmas here say what each of these calls leaves of the test case and of the world; everything
about sequences of calls is derived from them.
-/

namespace Rehearsal

/-- The error of a test result is not that it is pending or a success. -/
@[simp] theorem TestResult.isFailed_ofError (e : Error) : (TestResult.ofError e).isFailed = true :=
  rfl

theorem TestResult.isFailed_iff {r : TestResult} :
    r.isFailed = true ↔ r ≠ .pending ∧ r ≠ .success := by
  cases r <;> simp [TestResult.isFailed]

/-- What is neither pending nor a failure is a success. -/
theorem TestResult.eq_success {r : TestResult} (hp : r ≠ .pending) (hf : r.isFailed = false) :
    r = .success := by
  cases r with
  | pending => exact absurd rfl hp
  | success => rfl
  | failed action cause => cases hf

namespace Runner

variable {t : TestCase} {a : Action} {w : World}

/-- A runner starts by binding the variables; a failure to do so is the result of the test case. -/
theorem start_eq (t : TestCase) (w : World) : ((start t).run w).run = match outcome t.seed w with
    | (.error e, w') => (({ t with startedAt := some w.fresh.now }.complete (.ofError e)
        w'.fresh.now, .error e), w')
    | (.ok (), w') => (({ t with startedAt := some w.fresh.now }, .ok ()), w') := by
  -- the time of the start is not looked at by anything that a start does
  have hseed : outcome { t with startedAt := some w.fresh.now }.seed w = outcome t.seed w := rfl
  rw [start, run_get_bind, run_bind_state, run_run, hseed]
  rcases outcome t.seed w with ⟨e | ⟨⟩, w'⟩ <;> rfl

/-- A start that succeeds leaves the test case as it is, but for the time. -/
theorem start_eq_ok {t' : TestCase} {w' : World}
    (h : ((start t).run w).run = ((t', .ok ()), w')) :
    t' = { t with startedAt := some w.fresh.now } := by
  rw [start_eq] at h
  rcases hs : outcome t.seed w with ⟨e | ⟨⟩, w₁⟩
  · rw [hs] at h
    cases h
  · rw [hs] at h
    cases h
    rfl

/-- After a failure a runner does nothing any more. -/
theorem run_of_isFailed (h : t.result.isFailed = true) :
    ((run t a).run w).run = ((t, .error (.aborted t.name)), w) := by
  rw [run, if_pos h]
  rfl

/-- A runner runs an action and records it; a failure is the result of the test case. -/
theorem run_eq (h : t.result.isFailed = false) :
    ((run t a).run w).run = match outcome a.execute w with
      | (.error e, w') => (({ t.add a with states := t.states ++ [ActionState.failed] }.complete
          (.ofError e) w'.fresh.now, .error e), w')
      | (.ok state, w') => (({ t.add a with states := t.states ++ [state] }, .ok state), w') := by
  rw [run, if_neg (by rw [h]; exact Bool.false_ne_true), run_bind_state, run_run]
  rcases outcome a.execute w with ⟨e | state, w'⟩ <;> rfl

/-- A runner refuses an action, or the action fails, or it has a state and the result stays. -/
theorem run_cases {t' : TestCase} {r : Except Error ActionState} {w' : World}
    (h : ((run t a).run w).run = ((t', r), w')) :
    (t.result.isFailed = true ∧ t' = t ∧ r = .error (.aborted t.name))
      ∨ t.result.isFailed = false ∧ ((∃ e, r = .error e ∧ t'.result = .ofError e)
        ∨ ∃ state, r = .ok state ∧ t'.result = t.result) := by
  cases hf : t.result.isFailed with
  | true =>
    rw [run_of_isFailed hf] at h
    cases h
    exact .inl ⟨rfl, rfl, rfl⟩
  | false =>
    rw [run_eq hf] at h
    rcases he : outcome a.execute w with ⟨e | state, w₁⟩
    · rw [he] at h
      cases h
      exact .inr ⟨rfl, .inl ⟨e, rfl, rfl⟩⟩
    · rw [he] at h
      cases h
      exact .inr ⟨rfl, .inr ⟨state, rfl, rfl⟩⟩

/-- The end of a run is a success if the test case has no result yet. -/
theorem finish_eq (t : TestCase) (w : World) : ((finish t).run w).run
    = (if t.result = .pending then t.complete .success w.fresh.now else t, w) := by
  rw [finish]
  split <;> rfl

end Runner
end Rehearsal

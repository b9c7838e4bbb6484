import Rehearsal.Proofs.Scope.Purity
import Rehearsal.Proofs.TestCase.Drivers

/-!
# The lifecycle of a test case

A test case is either at hand or in the hands of a runner. Calls of the two drivers may follow each
other in any order that this allows, each in a world of its own. Main statement: a failed result is
final, and a success is changed by nothing but a runner that was started on a test case with a
success and runs an action that fails (`result_changes_iff`). If runners are started on test cases
without a result only, every result is final.
-/

namespace Rehearsal.TestCase

/-- Where a test case is in its life. -/
structure Stage where
  /-- Is the test case in the hands of a runner? -/
  running : Bool
  case : TestCase

namespace Stage

/-- One call, in any world. Runners are started on test cases for which `may` holds. A start that
fails is no step: it gives no runner, and the test case is gone. -/
inductive Step (may : TestCase → Prop) : Stage → Stage → Prop
  | run {t t' : TestCase} {r : Except Error Unit} {w w' : World}
      (h : (t.run.run w).run = ((t', r), w')) : Step may ⟨false, t⟩ ⟨false, t'⟩
  | start {t t' : TestCase} {w w' : World} (hmay : may t)
      (h : ((Runner.start t).run w).run = ((t', .ok ()), w')) : Step may ⟨false, t⟩ ⟨true, t'⟩
  | act {t t' : TestCase} {a : Action} {r : Except Error ActionState} {w w' : World}
      (h : ((Runner.run t a).run w).run = ((t', r), w')) : Step may ⟨true, t⟩ ⟨true, t'⟩
  | finish {t t' : TestCase} {w w' : World}
      (h : ((Runner.finish t).run w).run = (t', w')) : Step may ⟨true, t⟩ ⟨false, t'⟩

/-- A sequence of calls. -/
inductive Reaches (may : TestCase → Prop) : Stage → Stage → Prop
  | refl {g : Stage} : Reaches may g g
  | step {g g₁ g₂ : Stage} (h : Reaches may g g₁) (hs : Step may g₁ g₂) : Reaches may g g₂

/-- A runner runs an action on a test case that has succeeded, and the action fails. -/
inductive Spoils : Stage → Stage → Prop
  | act {t t' : TestCase} {a : Action} {e : Error} {w w' : World} (ht : t.result = .success)
      (h : ((Runner.run t a).run w).run = ((t', .error e), w')) : Spoils ⟨true, t⟩ ⟨true, t'⟩

variable {may : TestCase → Prop} {g g' g₁ : Stage}

/-! ## One call -/

theorem Spoils.step (h : Spoils g g') : Step may g g' := by
  cases h with
  | act ht h => exact .act h

theorem Spoils.isFailed (h : Spoils g g') : g'.case.result.isFailed = true := by
  cases h with
  | @act t t' a e w w' ht h =>
    obtain ⟨hf, -⟩ | ⟨-, ⟨e', -, hr⟩ | ⟨state, he, -⟩⟩ := Runner.run_cases h
    · rw [ht] at hf
      cases hf
    · show t'.result.isFailed = true
      rw [hr]
      rfl
    · cases he

/-- One call leaves a result as it is, unless it spoils a success. -/
theorem Step.result_eq_or_spoils (h : Step may g g') (hg : g.case.result ≠ .pending) :
    g'.case.result = g.case.result ∨ g.case.result = .success ∧ Spoils g g' := by
  cases h with
  | run h =>
    rw [run_of_executed hg] at h
    cases h
    exact .inl rfl
  | start hmay h =>
    obtain rfl := Runner.start_eq_ok h
    exact .inl rfl
  | @act t t' a r w w' h =>
    obtain ⟨-, rfl, -⟩ | ⟨hf, ⟨e, rfl, -⟩ | ⟨state, -, hr⟩⟩ := Runner.run_cases h
    · exact .inl rfl
    · have hsuccess := TestResult.eq_success hg hf
      exact .inr ⟨hsuccess, .act hsuccess h⟩
    · exact .inl hr
  | @finish t t' w w' h =>
    rw [Runner.finish_eq, if_neg hg] at h
    cases h
    exact .inl rfl

/-- Where runners are not started on successes, none holds one. -/
theorem Step.ne_success (hmay : ∀ t, may t → t.result ≠ .success) (h : Step may g g')
    (hg : g.running = true → g.case.result ≠ .success) :
    g'.running = true → g'.case.result ≠ .success := by
  intro hrunning
  cases h with
  | run h => cases hrunning
  | finish h => cases hrunning
  | @start t t' w w' ht h =>
    obtain rfl := Runner.start_eq_ok h
    exact hmay t ht
  | @act t t' a r w w' h =>
    show t'.result ≠ .success
    obtain ⟨-, rfl, -⟩ | ⟨-, ⟨e, -, hr⟩ | ⟨state, -, hr⟩⟩ := Runner.run_cases h
    · exact hg rfl
    · rw [hr]
      exact nofun
    · rw [hr]
      exact hg rfl

/-! ## Sequences of calls -/

theorem Reaches.trans {g₂ : Stage} (h : Reaches may g g₁) (h' : Reaches may g₁ g₂) :
    Reaches may g g₂ := by
  induction h' with
  | refl => exact h
  | step _ hs ih => exact .step ih hs

/-- A failure is final. -/
theorem Reaches.result_of_isFailed (h : Reaches may g g') (hg : g.case.result.isFailed = true) :
    g'.case.result = g.case.result := by
  induction h with
  | refl => rfl
  | @step g₁ g₂ _ hs ih =>
    have hg₁ : g₁.case.result.isFailed = true := by rw [ih]; exact hg
    obtain ⟨hpending, hsuccess⟩ := TestResult.isFailed_iff.1 hg₁
    rcases hs.result_eq_or_spoils hpending with heq | ⟨h, -⟩
    · rw [heq, ih]
    · exact absurd h hsuccess

/-- A sequence of calls leaves a result as it is, unless a call in it spoils a success. -/
theorem Reaches.result_eq_or_spoils (h : Reaches may g g') (hg : g.case.result ≠ .pending) :
    g'.case.result = g.case.result
      ∨ ∃ g₁ g₂, Reaches may g g₁ ∧ Spoils g₁ g₂ ∧ Reaches may g₂ g' := by
  induction h with
  | refl => exact .inl rfl
  | @step g₁ g₂ h hs ih =>
    rcases ih with heq | ⟨g₃, g₄, hbefore, hspoils, hafter⟩
    · rcases hs.result_eq_or_spoils (by rw [heq]; exact hg) with heq' | ⟨-, hspoils⟩
      · exact .inl (heq'.trans heq)
      · exact .inr ⟨g₁, g₂, h, hspoils, .refl⟩
    · exact .inr ⟨g₃, g₄, hbefore, hspoils, .step hafter hs⟩

theorem Reaches.ne_success (hmay : ∀ t, may t → t.result ≠ .success) (h : Reaches may g g')
    (hg : g.running = true → g.case.result ≠ .success) :
    g'.running = true → g'.case.result ≠ .success := by
  induction h with
  | refl => exact hg
  | step _ hs ih => exact hs.ne_success hmay ih

/-- What spoils a success changes the result for good. -/
theorem result_ne_of_spoils {g₂ : Stage} (hbefore : Reaches may g g₁) (hspoils : Spoils g₁ g₂)
    (hafter : Reaches may g₂ g') : g'.case.result ≠ g.case.result := by
  have hg₁ : g₁.case.result = .success := by cases hspoils; assumption
  have hfailed : g'.case.result.isFailed = true := by
    rw [hafter.result_of_isFailed hspoils.isFailed]
    exact hspoils.isFailed
  intro heq
  -- the result would have been a failure before the success
  have hfinal := hbefore.result_of_isFailed (heq ▸ hfailed)
  rw [← heq, hg₁] at hfinal
  rw [← hfinal] at hfailed
  cases hfailed

/-- A result that is set changes if a runner runs an action on a success and the action fails, and
only then: a failure is final, and so is every result if no runner is started on a success. -/
theorem result_changes_iff (may : TestCase → Prop) (g g' : Stage) (h : Reaches may g g')
    (hg : g.case.result ≠ .pending) :
    (g'.case.result ≠ g.case.result
        ↔ ∃ g₁ g₂, Reaches may g g₁ ∧ Spoils g₁ g₂ ∧ Reaches may g₂ g')
      ∧ (g.case.result.isFailed = true → g'.case.result = g.case.result)
      ∧ ((∀ t, may t → t.result ≠ .success) → ∀ g₀, g₀.running = false → Reaches may g₀ g →
        g'.case.result = g.case.result) := by
  refine ⟨⟨fun hne => ?_, ?_⟩, h.result_of_isFailed, ?_⟩
  · exact (h.result_eq_or_spoils hg).resolve_left hne
  · rintro ⟨g₁, g₂, hbefore, hspoils, hafter⟩
    exact result_ne_of_spoils hbefore hspoils hafter
  · intro hmay g₀ hidle h₀
    rcases h.result_eq_or_spoils hg with heq | ⟨g₁, g₂, hbefore, hspoils, -⟩
    · exact heq
    · have hne := (h₀.trans hbefore).ne_success hmay (by rw [hidle]; exact nofun)
      cases hspoils with
      | act ht _ => exact absurd ht (hne rfl)

/-- A test case that does nothing, after it has been run. -/
def succeeded : TestCase := ((TestCase.run { name := "quick" }).run World.initial).run.1.1

/-- It is run again. -/
def repeated : TestCase := ((TestCase.run succeeded).run World.initial).run.1.1

theorem result_changes_iff_again :
    Reaches (fun t => t.result ≠ .success) ⟨false, succeeded⟩ ⟨false, repeated⟩
      ∧ succeeded.result ≠ .pending ∧ repeated.result = succeeded.result := by
  have hrun : ((TestCase.run succeeded).run World.initial).run
      = ((repeated, ((TestCase.run succeeded).run World.initial).run.1.2),
        ((TestCase.run succeeded).run World.initial).run.2) := rfl
  have h : Reaches (fun t => t.result ≠ .success) ⟨false, succeeded⟩ ⟨false, repeated⟩ :=
    .step .refl (.run hrun)
  have hset : succeeded.result ≠ .pending := nofun
  obtain ⟨-, -, hfinal⟩ := result_changes_iff _ ⟨false, succeeded⟩ ⟨false, repeated⟩ h hset
  exact ⟨h, hset, hfinal (fun t ht => ht) ⟨false, succeeded⟩ rfl .refl⟩

/-- A runner is started on it. -/
def restarted : TestCase := ((Runner.start succeeded).run World.initial).run.1.1

/-- The runner runs an action that fails. -/
def spoiled : TestCase := ((Runner.run restarted (.fail "no")).run World.initial).run.1.1

/-- The success of the first run is replaced by the failure of the action. -/
theorem success_replaced : Reaches (fun _ => True) ⟨false, succeeded⟩ ⟨true, spoiled⟩
    ∧ succeeded.result = .success
    ∧ spoiled.result = .failed (some "fail") "Validation failed: no" := by
  have hfail : outcome (Action.fail "no").execute World.initial
      = (.error (.execution "fail" (.validation (.other "no"))), World.initial) := by
    have hresolve : outcome (Run.resolve "no") World.initial = (.ok "no", World.initial) := by
      apply Run.outcome_draw_of_ok
      rw [Scope.resolve_of_plain _ (by decide)]
      rfl
    rw [Action.execute, Run.outcome_within, outcome_bind_of_ok hresolve]
    rfl
  have hstart : ((Runner.start succeeded).run World.initial).run
      = ((restarted, .ok ()), ((Runner.start succeeded).run World.initial).run.2) := rfl
  have hact : ((Runner.run restarted (.fail "no")).run World.initial).run
      = ((spoiled, ((Runner.run restarted (.fail "no")).run World.initial).run.1.2),
        ((Runner.run restarted (.fail "no")).run World.initial).run.2) := rfl
  refine ⟨.step (.step .refl (.start trivial hstart)) (.act hact), rfl, ?_⟩
  rw [spoiled, Runner.run_eq rfl, hfail]
  rfl

end Stage
end Rehearsal.TestCase

import Rehearsal.Definition.Load
import Rehearsal.Proofs.Action.Setup

/-!
# Runs of test cases

Apart from the record that is kept of it, a run of a test case binds its variables and then runs its
actions (`run_eq`). It fails if the variables cannot be bound, or with the first action that it
comes to and that fails (`outcome_body_eq_error`). Where its actions are sound, a name that refers
to nothing is the cause exactly if the run comes to an action whose endpoint is not there
(`run_isDangling_iff`).
-/

namespace Rehearsal.TestCase

/-- What a run does: it binds the variables and then runs the actions. -/
def body (t : TestCase) : Run Unit := do
  t.seed
  Action.performAll t.actions

/-- A run comes to an action, in the containers with these names and in this world. -/
def Reaches (t : TestCase) (w : World) (path : List String) (a : Action) (w' : World) : Prop :=
  ∃ w₀ rest, outcome t.seed w = (.ok (), w₀)
    ∧ Agenda.Reaches (Agenda.inside [] t.actions) w₀ (⟨path, a⟩ :: rest) w'

variable {t : TestCase} {w : World}

theorem outcome_body_eq_error {e : Error} {w' : World} : outcome t.body w = (.error e, w')
    ↔ outcome t.seed w = (.error e, w') ∨ ∃ path a w₁ cause, t.Reaches w path a w₁
      ∧ outcome a.visit w₁ = (.error cause, w') ∧ e = cause.wrap (path ++ [a.name]) := by
  rw [body, outcome_bind_eq_error]
  refine or_congr_right ?_
  constructor
  · rintro ⟨⟨⟩, w₀, hseed, h⟩
    obtain ⟨path, a, rest, w₁, cause, hr, hv, rfl⟩ := Agenda.outcome_performAll_eq_error.1 h
    exact ⟨path, a, w₁, cause, ⟨w₀, rest, hseed, hr⟩, hv, rfl⟩
  · rintro ⟨path, a, w₁, cause, ⟨w₀, rest, hseed, hr⟩, hv, rfl⟩
    have h := Agenda.outcome_performAll_eq_error.2 ⟨path, a, rest, w₁, cause, hr, hv, rfl⟩
    exact ⟨(), w₀, hseed, h⟩

theorem runActions_cons (a : Action) (as : List Action) (w : World) :
    ((runActions (a :: as)).run w).run = match outcome a.execute w with
      | (.error e, w') => (([.failed], some e), w')
      | (.ok state, w') =>
        let r := ((runActions as).run w').run
        ((state :: r.1.1, r.1.2), r.2) := by
  rw [runActions, run_bind_state, run_run]
  rcases outcome a.execute w with ⟨e | state, w'⟩ <;> rfl

/-- Running the actions of a test case is running them, with a record of what became of each. -/
theorem runActions_eq (as : List Action) (w : World) : ∃ states failure,
    ((runActions as).run w).run = ((states, failure), (outcome (Action.performAll as) w).2)
      ∧ (outcome (Action.performAll as) w).1 = failure.elim (.ok ()) .error := by
  induction as generalizing w with
  | nil => exact ⟨[], none, rfl, rfl⟩
  | cons a as ih =>
    rw [Action.performAll_cons, outcome_bind, Action.outcome_perform, runActions_cons]
    rcases outcome a.execute w with ⟨e | state, w'⟩
    · exact ⟨[.failed], some e, rfl, rfl⟩
    · obtain ⟨states, failure, hrun, herr⟩ := ih w'
      refine ⟨state :: states, failure, ?_, herr⟩
      dsimp only
      rw [hrun]

/-- What becomes of a run in the record of the test case. -/
def record (t : TestCase) (w : World) : TestCase :=
  let t := { t with startedAt := some w.fresh.now }
  match outcome t.seed w with
  | (.error e, w') => t.complete (.ofError e) w'.fresh.now
  | (.ok (), w') =>
    let r := ((runActions t.actions).run w').run
    let t := { t with states := t.states ++ r.1.1 }
    t.complete (r.1.2.elim .success .ofError) r.2.fresh.now

/-- A test case that has not been run is run by what it does, and its outcome is recorded. -/
theorem run_eq (ht : t.result = .pending) :
    (t.run.run w).run = ((t.record w, (outcome t.body w).1), (outcome t.body w).2) := by
  -- the time of the start is not looked at by anything that a run does
  have hseed : outcome { t with startedAt := some w.fresh.now }.seed w = outcome t.seed w := rfl
  rw [run, if_neg fun h => h ht, run_get_bind, run_bind_state, run_run, record, body, outcome_bind]
  dsimp only
  rw [hseed]
  rcases outcome t.seed w with ⟨e | ⟨⟩, w'⟩
  · rfl
  · obtain ⟨states, failure, hrun, herr⟩ := runActions_eq t.actions w'
    dsimp only
    rw [hrun, herr, StateT.run_bind, Id.run_bind, hrun]
    cases failure <;> rfl

/-- A test case is run once only. -/
theorem run_of_executed (ht : t.result ≠ .pending) :
    (t.run.run w).run = ((t, .error (.config (.executed t.name))), w) := by
  rw [run, if_pos ht]
  rfl

/-! ## Runs of sound actions -/

variable {c₀ : Context} {C : Action → Prop}

theorem keeps_seed (ho : c₀.IsOrdinary) (t : TestCase) : Run.Keeps c₀ (fun _ => True) t.seed :=
  keeps_bind (Run.keeps_bindVariable _ _) fun _ _ => Run.keeps_bindTemplates ho _

/-- A run of sound actions has the same setup at every action that it comes to. -/
theorem Reaches.keeps (ho : c₀.IsOrdinary) (hC : ∀ a, C a → a.IsSound c₀.bindings)
    (ht : ∀ a ∈ t.actions, a.Hereditarily C) (hw : c₀.SameSetup w.context) {path : List String}
    {a : Action} {w' : World} (hr : t.Reaches w path a w') : c₀.SameSetup w'.context ∧ C a := by
  obtain ⟨w₀, rest, hseed, hr⟩ := hr
  have hvisit : ∀ a w as w', C a → c₀.SameSetup w.context → outcome a.visit w = (.ok as, w') →
      c₀.SameSetup w'.context :=
    fun a w as w' ha hw hv => ((Action.keeps_visit_of_isSound ho (hC a ha)).ok w as w' hw hv).1
  have hagenda : ∀ p ∈ Agenda.inside [] t.actions, p.action.Hereditarily C := by
    intro p hp
    obtain ⟨a, ha, rfl⟩ := List.mem_map.1 hp
    exact ht a ha
  have hw₀ : c₀.SameSetup w₀.context := ((keeps_seed ho t).ok w () w₀ hw hseed).1
  obtain ⟨hw', hrest⟩ := Agenda.Reaches.keeps hvisit hr hw₀ hagenda
  exact ⟨hw', (hrest ⟨path, a⟩ List.mem_cons_self).self⟩

/-- A run of sound actions fails because a name refers to nothing if it comes to an action that
misses its endpoint, and only then. -/
theorem isDangling_iff (ho : c₀.IsOrdinary) (hC : ∀ a, C a → a.IsSound c₀.bindings)
    (ht : ∀ a ∈ t.actions, a.Hereditarily C) (hw : c₀.SameSetup w.context) {e : Error} :
    (outcome t.body w).1 = .error e ∧ e.IsDangling
      ↔ ∃ path a w' cause, t.Reaches w path a w' ∧ a.Misses c₀.bindings cause
        ∧ e = cause.wrap (path ++ [a.name]) := by
  constructor
  · rintro ⟨he, hdangling⟩
    rcases outcome_body_eq_error.1 (Prod.ext he rfl) with hseed | ⟨path, a, w', cause, hr, hv, rfl⟩
    · have hord := ((keeps_seed ho t).error _ _ _ hw hseed).2
      exact absurd hdangling (Error.not_isDangling hord)
    · obtain ⟨hw', ha⟩ := hr.keeps ho hC ht hw
      obtain ⟨-, hord | hm⟩ := (Action.keeps_visit_of_isSound ho (hC a ha)).error _ _ _ hw' hv
      · obtain ⟨name, kind, hroot⟩ := hdangling
        rw [Error.rootCause_wrap] at hroot
        exact absurd ⟨name, kind, hroot⟩ (Error.not_isDangling hord)
      · exact ⟨path, a, w', cause, hr, hm, rfl⟩
  · rintro ⟨path, a, w', cause, hr, hm, rfl⟩
    obtain ⟨hw', -⟩ := hr.keeps ho hC ht hw
    have hv : outcome a.visit w' = (.error cause, w') :=
      Action.outcome_visit_of_misses (hw'.bindings ▸ hm)
    rw [outcome_body_eq_error.2 (.inr ⟨path, a, w', cause, hr, hv, rfl⟩)]
    obtain ⟨name, rfl⟩ := hm.eq_referenceNotFound
    refine ⟨rfl, name, .endpoint, ?_⟩
    rw [Error.rootCause_wrap]
    rfl

/-- A test case that has been run already is not run again, and so does not fail for that reason. -/
theorem run_isDangling_iff (ho : c₀.IsOrdinary) (hC : ∀ a, C a → a.IsSound c₀.bindings)
    (ht : ∀ a ∈ t.actions, a.Hereditarily C) (hw : c₀.SameSetup w.context) {e : Error} :
    (t.run.run w).run.1.2 = .error e ∧ e.IsDangling
      ↔ t.result = .pending ∧ ∃ path a w' cause, t.Reaches w path a w'
        ∧ a.Misses c₀.bindings cause ∧ e = cause.wrap (path ++ [a.name]) := by
  by_cases hp : t.result = .pending
  · rw [run_eq hp, isDangling_iff ho hC ht hw, and_iff_right hp]
  · rw [run_of_executed hp]
    constructor
    · rintro ⟨he, hd⟩
      cases he
      exact absurd hd (Error.not_isDangling trivial)
    · rintro ⟨hp', -⟩
      exact absurd hp' hp

end Rehearsal.TestCase

import Rehearsal.Proofs.Scope.Purity
import Rehearsal.Proofs.TestCase.Drivers

/-!
# A runner agrees with a run

A runner may be given the actions of a test case one by one. After a failure it refuses every action
and leaves all as it is (`runEach_of_isFailed`), and up to there it does what a run does
(`runEach_eq`, by induction on the actions, for a runner that has recorded any states before). Main
statement: a start fails if a run with the same variables fails while it binds them, with the same
error; if it does not, the runner ends as the run of the test case with these actions does, with the
same world, states and result, and its first error is that of the run (`drive_agrees_with_run`).
-/

namespace Rehearsal

/-- A run of the test case fails while it binds the variables, and so runs no action. -/
def TestCase.FailsToSeed (t : TestCase) (w : World) (e : Error) (w' : World) : Prop :=
  outcome t.seed w = (.error e, w') ∧ (t.run.run w).run.1.2 = .error e
    ∧ (t.run.run w).run.1.1.states = t.states ∧ (t.run.run w).run.2 = w'

namespace Runner

/-- What a runner answers when it is given an action. -/
abbrev Answer := Except Error ActionState

def Answer.error? : Answer → Option Error
  | .ok _ => none
  | .error e => some e

/-- The first error that a runner answered. -/
def firstError? (answers : List Answer) : Option Error := answers.findSome? Answer.error?

/-- Give a runner actions one after the other, and go on when it has failed. -/
def runEach (t : TestCase) : List Action → StateM World (TestCase × List Answer)
  | [] => return (t, [])
  | a :: as => do
    let (t, answer) ← run t a
    let (t, answers) ← runEach t as
    return (t, answer :: answers)

/-- Give a runner actions and end it. -/
def drive (t : TestCase) (actions : List Action) : StateM World (TestCase × List Answer) := do
  let (t, answers) ← runEach t actions
  let t ← finish t
  return (t, answers)

/-- A runner that was driven and a run end alike: they leave the same world, states and result, and
the first error of the runner is the error of the run. -/
structure EndsAlike (driven : (TestCase × List Answer) × World)
    (ran : (TestCase × Except Error Unit) × World) : Prop where
  world : driven.2 = ran.2
  states : driven.1.1.states = ran.1.1.states
  result : driven.1.1.result = ran.1.1.result
  error : ran.1.2 = (firstError? driven.1.2).elim (.ok ()) .error

/-! ## Giving actions to a runner -/

variable {t : TestCase}

theorem runEach_cons (t : TestCase) (a : Action) (as : List Action) (w : World) :
    ((runEach t (a :: as)).run w).run =
      let first := ((run t a).run w).run
      let rest := ((runEach first.1.1 as).run first.2).run
      ((rest.1.1, first.1.2 :: rest.1.2), rest.2) := rfl

theorem runEach_append (t : TestCase) (before after : List Action) (w : World) :
    ((runEach t (before ++ after)).run w).run =
      let first := ((runEach t before).run w).run
      let rest := ((runEach first.1.1 after).run first.2).run
      ((rest.1.1, first.1.2 ++ rest.1.2), rest.2) := by
  induction before generalizing t w with
  | nil => rfl
  | cons a as ih =>
    rw [List.cons_append, runEach_cons]
    dsimp only
    rw [ih, runEach_cons]
    rfl

/-- After a failure a runner refuses all actions, and nothing changes. -/
theorem runEach_of_isFailed (h : t.result.isFailed = true) (as : List Action) (w : World) :
    ((runEach t as).run w).run = ((t, as.map fun _ => .error (.aborted t.name)), w) := by
  induction as with
  | nil => rfl
  | cons a as ih =>
    rw [runEach_cons, run_of_isFailed h]
    dsimp only
    rw [ih]
    rfl

/-- A runner without a failure does with actions what a run does with them, and puts their states
behind those that it has recorded. -/
theorem runEach_eq (h : t.result.isFailed = false) (as : List Action) (w : World) :
    let driven := ((runEach t as).run w).run
    let ran := ((TestCase.runActions as).run w).run
    driven.2 = ran.2 ∧ driven.1.1.name = t.name ∧ driven.1.1.states = t.states ++ ran.1.1
      ∧ driven.1.1.result = ran.1.2.elim t.result .ofError ∧ firstError? driven.1.2 = ran.1.2 := by
  induction as generalizing t w with
  | nil => exact ⟨rfl, rfl, (List.append_nil t.states).symm, rfl, rfl⟩
  | cons a as ih =>
    rw [runEach_cons, TestCase.runActions_cons, run_eq h]
    rcases outcome a.execute w with ⟨e | state, w'⟩
    · -- the action fails: a run ends here, and the runner refuses the other actions
      dsimp only
      rw [runEach_of_isFailed (TestResult.isFailed_ofError e)]
      exact ⟨rfl, rfl, rfl, rfl, rfl⟩
    · obtain ⟨hworld, hname, hstates, hresult, herror⟩ :=
        @ih { t.add a with states := t.states ++ [state] } h w'
      refine ⟨hworld, hname, ?_, hresult, herror⟩
      rw [hstates, List.append_assoc]
      rfl

/-! ## Driving a runner -/

/-- What was answered to the first actions and what it left stays when a failure is among it, and
the other actions are refused. -/
theorem runEach_append_of_error (h : t.result.isFailed = false) {before : List Action}
    {w : World} (he : (firstError? ((runEach t before).run w).run.1.2).isSome = true)
    (after : List Action) : ((runEach t (before ++ after)).run w).run =
      let first := ((runEach t before).run w).run
      ((first.1.1, first.1.2 ++ after.map fun _ => .error (.aborted t.name)), first.2) := by
  obtain ⟨-, hname, -, hresult, herror⟩ := runEach_eq h before w
  obtain ⟨e, he⟩ := Option.isSome_iff_exists.1 he
  rw [← herror, he] at hresult
  have hfailed : ((runEach t before).run w).run.1.1.result.isFailed = true := by
    rw [hresult]
    rfl
  rw [runEach_append]
  dsimp only
  rw [runEach_of_isFailed hfailed, hname]

/-- The end of a runner is a success if nothing has failed. -/
theorem drive_eq (t : TestCase) (as : List Action) (w : World) :
    let driven := ((drive t as).run w).run
    let each := ((runEach t as).run w).run
    driven.2 = each.2 ∧ driven.1.2 = each.1.2 ∧ driven.1.1.states = each.1.1.states
      ∧ driven.1.1.result = if each.1.1.result = .pending then .success else each.1.1.result := by
  have hdrive : ((drive t as).run w).run =
      let each := ((runEach t as).run w).run
      let ended := ((finish each.1.1).run each.2).run
      ((ended.1, each.1.2), ended.2) := rfl
  rw [hdrive]
  dsimp only
  rw [finish_eq]
  split <;> exact ⟨rfl, rfl, rfl, rfl⟩

/-- What a run leaves that has bound its variables and then runs its actions. -/
theorem run_of_seed (hpending : t.result = .pending) {w w₀ : World}
    (hseed : outcome t.seed w = (.ok (), w₀)) :
    let ran := (t.run.run w).run
    let acted := ((TestCase.runActions t.actions).run w₀).run
    ran.2 = acted.2 ∧ ran.1.1.states = t.states ++ acted.1.1
      ∧ ran.1.1.result = acted.1.2.elim .success .ofError
      ∧ ran.1.2 = acted.1.2.elim (.ok ()) .error := by
  obtain ⟨states, failure, hacted, houtcome⟩ := TestCase.runActions_eq t.actions w₀
  have hbody : outcome t.body w = outcome (Action.performAll t.actions) w₀ := by
    rw [TestCase.body, outcome_bind_of_ok hseed]
  -- the time of the start is not looked at by anything that a run does
  have hseed' : outcome { t with startedAt := some w.fresh.now }.seed w = (.ok (), w₀) := hseed
  rw [TestCase.run_eq hpending, TestCase.record, hbody]
  dsimp only
  rw [hseed']
  dsimp only
  rw [hacted]
  exact ⟨rfl, rfl, rfl, houtcome⟩

/-- A runner that was started on a test case without a result ends as a run does that binds the
variables in the same way. -/
theorem endsAlike_drive {t' : TestCase} {w w₀ : World} (hpending : t'.result = .pending)
    (hseed : outcome t'.seed w = (.ok (), w₀)) (ht : t.result = .pending)
    (hstates : t.states = t'.states) :
    EndsAlike ((drive t t'.actions).run w₀).run (t'.run.run w).run := by
  obtain ⟨hworld, -, hrecorded, hresult, herror⟩ := runEach_eq (by rw [ht]; rfl) t'.actions w₀
  obtain ⟨hworld', hanswers, hrecorded', hresult'⟩ := drive_eq t t'.actions w₀
  obtain ⟨hran, hstates', hran_result, hran_error⟩ := run_of_seed hpending hseed
  refine ⟨?_, ?_, ?_, ?_⟩
  · rw [hworld', hworld, hran]
  · rw [hrecorded', hrecorded, hstates, hstates']
  · rw [hresult', hresult, hran_result, ht]
    cases ((TestCase.runActions t'.actions).run w₀).run.1.2 with
    | none => rfl
    | some e => rfl
  · rw [hanswers, herror, hran_error]

/-! ## Starts -/

/-- A start that succeeds has bound the variables. -/
theorem outcome_seed_of_start {t' : TestCase} {w w' : World}
    (h : ((start t).run w).run = ((t', .ok ()), w')) : outcome t.seed w = (.ok (), w') := by
  rw [start_eq] at h
  rcases hs : outcome t.seed w with ⟨e | ⟨⟩, w₁⟩
  · rw [hs] at h
    cases h
  · rw [hs] at h
    cases h
    rfl

/-- A start fails if the variables cannot be bound, and only then. -/
theorem start_eq_error {e : Error} {w w' : World} :
    (∃ t', ((start t).run w).run = ((t', .error e), w')) ↔ outcome t.seed w = (.error e, w') := by
  rw [start_eq]
  rcases outcome t.seed w with ⟨e' | ⟨⟩, w₁⟩ <;> simp

/-- A run of a test case without a result fails before its actions if the variables cannot be
bound. -/
theorem failsToSeed_iff (hpending : t.result = .pending) {e : Error} {w w' : World} :
    t.FailsToSeed w e w' ↔ outcome t.seed w = (.error e, w') := by
  refine ⟨fun h => h.1, fun h => ⟨h, ?_⟩⟩
  have hbody : outcome t.body w = (.error e, w') := outcome_bind_of_error h
  -- the time of the start is not looked at by anything that a run does
  have hseed : outcome { t with startedAt := some w.fresh.now }.seed w = (.error e, w') := h
  rw [TestCase.run_eq hpending, TestCase.record, hbody]
  dsimp only
  rw [hseed]
  exact ⟨rfl, rfl, rfl⟩

/-- For every name, variables, actions and world: a start fails if a run of the test case with these
actions fails while it binds the variables, with the same error and the same world. Otherwise a
runner that is given the actions and then ended ends as the run does. Once it has failed, it refuses
every further action, and that changes neither the test case nor the world. -/
theorem drive_agrees_with_run (name : String) (vars : Assoc String) (actions : List Action)
    (w : World) :
    (∀ e w', (∃ t, ((start { name, vars }).run w).run = ((t, .error e), w'))
        ↔ TestCase.FailsToSeed { name, vars, actions } w e w')
      ∧ ∀ t w₀, ((start { name, vars }).run w).run = ((t, .ok ()), w₀) →
        EndsAlike ((drive t actions).run w₀).run
            ((TestCase.run { name, vars, actions }).run w).run
          ∧ ∀ before after, actions = before ++ after →
            (firstError? ((runEach t before).run w₀).run.1.2).isSome = true →
              ((runEach t actions).run w₀).run
                = ((((runEach t before).run w₀).run.1.1, ((runEach t before).run w₀).run.1.2
                    ++ after.map fun _ => .error (.aborted name)),
                  ((runEach t before).run w₀).run.2) := by
  -- the actions are not looked at when the variables are bound
  have hseed : TestCase.seed { name, vars } = TestCase.seed { name, vars, actions } := rfl
  constructor
  · intro e w'
    rw [start_eq_error, hseed, failsToSeed_iff rfl]
  · intro t w₀ hstart
    have hok := outcome_seed_of_start hstart
    rw [hseed] at hok
    obtain rfl := start_eq_ok hstart
    refine ⟨endsAlike_drive rfl hok rfl rfl, ?_⟩
    rintro before after rfl he
    exact runEach_append_of_error rfl he after

/-- A runner that was started, and the world after its start. -/
def napping : (TestCase × Except Error Unit) × World :=
  ((start { name := "nap" }).run World.initial).run

/-- The second action fails, and the runner refuses the third one. -/
def napActions : List Action := [.sleep 1, .fail "no", .sleep 1]

theorem drive_agrees_with_run_nap :
    napping = ((napping.1.1, .ok ()), napping.2)
      ∧ EndsAlike ((drive napping.1.1 napActions).run napping.2).run
        ((TestCase.run { name := "nap", actions := napActions }).run World.initial).run
      ∧ ((runEach napping.1.1 napActions).run napping.2).run.1.2
        = [.ok .done, .error (.execution "fail" (.validation (.other "no"))),
          .error (.aborted "nap")] := by
  have hfail : ∀ w, outcome (Action.fail "no").execute w
      = (.error (.execution "fail" (.validation (.other "no"))), w) := by
    intro w
    have hresolve : outcome (Run.resolve "no") w = (.ok "no", w) := by
      apply Run.outcome_draw_of_ok
      rw [Scope.resolve_of_plain _ (by decide)]
      rfl
    rw [Action.execute, Run.outcome_within, outcome_bind_of_ok hresolve]
    rfl
  have hsleep : ∀ w, outcome (Action.sleep 1).execute w = (.ok .done, w) := fun w => rfl
  have hstart : napping = ((napping.1.1, .ok ()), napping.2) := rfl
  obtain ⟨-, h⟩ := drive_agrees_with_run "nap" .empty napActions World.initial
  obtain ⟨hends, hrefused⟩ := h napping.1.1 napping.2 hstart
  have hanswers : ((runEach napping.1.1 [.sleep 1, .fail "no"]).run napping.2).run.1.2
      = [.ok .done, .error (.execution "fail" (.validation (.other "no")))] := by
    rw [runEach_cons, run_eq rfl, hsleep]
    dsimp only
    rw [runEach_cons, run_eq rfl, hfail]
    rfl
  refine ⟨hstart, hends, ?_⟩
  rw [hrefused [.sleep 1, .fail "no"] [.sleep 1] rfl (by rw [hanswers]; rfl), hanswers]
  rfl

end Runner
end Rehearsal

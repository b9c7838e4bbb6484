import Rehearsal.Proofs.TestCase.Drivers

/-!
# The states of actions

A `Turn` is an action with the world in which it is run. Both drivers of a test case run turns up to
the first that fails: a run has the turns of the declared actions, each in the world that the one
before leaves, and a runner has the turns that it is given. Main statement: the states of the test
case account for the actions of these turns (`states_account`). With a runner these are the actions
that it was given and not those that were declared before.
-/

namespace Rehearsal

/-! ## What an action gives -/

namespace Run

theorem outcome_within_eq_ok {α : Type} {action : String} {x : Run α} {w w' : World} {a : α} :
    outcome (within action x) w = (.ok a, w') ↔ outcome x w = (.ok a, w') := by
  rw [outcome_within]
  rcases outcome x w with ⟨e | b, w₁⟩ <;> simp

/-- What is run unless it is switched off is done or skipped. -/
theorem ne_failed_of_unlessDisabled {disabled : Run Bool} {body : Run Unit} {w w' : World}
    {s : ActionState} (h : outcome (unlessDisabled disabled body) w = (.ok s, w')) :
    s ≠ .failed := by
  obtain ⟨b, w₁, -, h⟩ := outcome_bind_eq_ok.1 h
  cases b with
  | true =>
    cases h
    exact ActionState.noConfusion
  | false =>
    obtain ⟨-, w₂, -, h⟩ := outcome_bind_eq_ok.1 h
    cases h
    exact ActionState.noConfusion

end Run

/-- An action that does not fail is done or skipped. -/
theorem Action.ne_failed_of_execute {a : Action} {w w' : World} {s : ActionState}
    (h : outcome a.execute w = (.ok s, w')) : s ≠ .failed := by
  rw [execute_eq, Run.outcome_within_eq_ok] at h
  exact Run.ne_failed_of_unlessDisabled h

namespace TestCase

/-! ## Turns -/

/-- An action is run in a world. -/
structure Turn where
  action : Action
  world : World

namespace Turn

/-- What the action gives, and the world that it leaves. -/
def ended (x : Turn) : Except Error ActionState × World := outcome x.action.execute x.world

/-- The state that is recorded for the action. -/
def state (x : Turn) : ActionState :=
  match x.ended.1 with
  | .ok s => s
  | .error _ => .failed

/-- The error of the action, if it fails. -/
def error? (x : Turn) : Option Error :=
  match x.ended.1 with
  | .ok _ => none
  | .error e => some e

theorem state_eq_failed_iff (x : Turn) : x.state = .failed ↔ x.error?.isSome = true := by
  unfold state error?
  cases h : x.ended.1 with
  | error e => simp
  | ok s =>
    have hx : outcome x.action.execute x.world = (.ok s, x.ended.2) := Prod.ext h rfl
    simpa using Action.ne_failed_of_execute hx

/-- The turns up to the first that fails, with that one. -/
def upToFailure : List Turn → List Turn
  | [] => []
  | x :: xs => if x.error?.isSome then [x] else x :: upToFailure xs

/-- The error of the first turn that fails. -/
def failure? (xs : List Turn) : Option Error := xs.findSome? error?

/-- Actions one after the other, each in the world that the one before it leaves. -/
def inOrder : World → List Action → List Turn
  | _, [] => []
  | w, a :: as => ⟨a, w⟩ :: inOrder (outcome a.execute w).2 as

theorem failure?_cons (x : Turn) (xs : List Turn) :
    failure? (x :: xs) = x.error?.or (failure? xs) := by
  rw [failure?, List.findSome?_cons]
  cases x.error? <;> rfl

theorem upToFailure_cons_of_error {x : Turn} {e : Error} (h : x.error? = some e) (xs : List Turn) :
    upToFailure (x :: xs) = [x] := by
  rw [upToFailure, h]
  rfl

theorem upToFailure_cons_of_ok {x : Turn} (h : x.error? = none) (xs : List Turn) :
    upToFailure (x :: xs) = x :: upToFailure xs := by
  rw [upToFailure, h]
  rfl

/-- Only the last turn may fail, and it fails only if there is a failure. -/
theorem isSome_failure?_of_failed {xs : List Turn} {i : Nat} {x : Turn}
    (hx : (upToFailure xs)[i]? = some x) (h : x.state = .failed) :
    i + 1 = (upToFailure xs).length ∧ (failure? xs).isSome = true := by
  induction xs generalizing i with
  | nil => simp [upToFailure] at hx
  | cons y ys ih =>
    cases hy : y.error? with
    | some e =>
      rw [upToFailure_cons_of_error hy] at hx ⊢
      rw [failure?_cons, hy]
      cases i with
      | zero => exact ⟨rfl, rfl⟩
      | succ i => simp at hx
    | none =>
      rw [upToFailure_cons_of_ok hy] at hx ⊢
      rw [failure?_cons, hy, Option.none_or]
      cases i with
      | zero =>
        obtain rfl : y = x := by simpa using hx
        rw [state_eq_failed_iff, hy] at h
        cases h
      | succ i =>
        obtain ⟨hi, hf⟩ := ih (by simpa using hx)
        exact ⟨by rw [List.length_cons, ← hi], hf⟩

/-- Without a failure every turn is there. -/
theorem upToFailure_of_failure?_eq_none {xs : List Turn} (h : failure? xs = none) :
    upToFailure xs = xs := by
  induction xs with
  | nil => rfl
  | cons x xs ih =>
    rw [failure?_cons, Option.or_eq_none_iff] at h
    rw [upToFailure_cons_of_ok h.1, ih h.2]

theorem upToFailure_isPrefix (xs : List Turn) : upToFailure xs <+: xs := by
  induction xs with
  | nil => exact List.prefix_rfl
  | cons x xs ih =>
    cases hx : x.error? with
    | some e =>
      rw [upToFailure_cons_of_error hx]
      exact ⟨xs, rfl⟩
    | none =>
      rw [upToFailure_cons_of_ok hx]
      exact List.cons_prefix_cons.2 ⟨rfl, ih⟩

theorem map_action_inOrder (w : World) (as : List Action) : (inOrder w as).map action = as := by
  induction as generalizing w with
  | nil => rfl
  | cons a as ih => rw [inOrder, List.map_cons, ih]

end Turn

/-! ## Accounts -/

open Turn

/-- The states of a test case account for actions that had these turns: there are never more states
than actions, each state is the outcome of its action, only the last one may be a failure and then
the test case has failed, and for a success every action has its state and none has failed. -/
structure Accounts (t : TestCase) (actions : List Action) (turns : List Turn) : Prop where
  length_le : t.states.length ≤ actions.length
  outcome : ∀ (i : Nat) (s : ActionState), t.states[i]? = some s →
    ∃ x : Turn, turns[i]? = some x ∧ actions[i]? = some x.action ∧ s = x.state
  failed : ∀ i : Nat, t.states[i]? = some .failed →
    i + 1 = t.states.length ∧ t.result.isFailed = true
  success : t.result = .success →
    t.states.length = actions.length ∧ ∀ s ∈ t.states, s = .done ∨ s = .skipped

theorem accounts_of_turns {t : TestCase} {actions : List Action} {xs : List Turn}
    (hactions : (upToFailure xs).map action <+: actions)
    (hstates : t.states = (upToFailure xs).map state)
    (hfailed : (failure? xs).isSome = true → t.result.isFailed = true)
    (hsuccess : t.result = .success → xs.map action = actions) :
    t.Accounts actions (upToFailure xs) where
  length_le := by
    rw [hstates, List.length_map, ← List.length_map action]
    exact hactions.length_le
  outcome i s hs := by
    rw [hstates, List.getElem?_map, Option.map_eq_some_iff] at hs
    obtain ⟨x, hx, rfl⟩ := hs
    have hi : i < ((upToFailure xs).map action).length := by
      rw [List.length_map]
      exact (List.getElem?_eq_some_iff.1 hx).1
    obtain ⟨rest, rfl⟩ := hactions
    refine ⟨x, hx, ?_, rfl⟩
    rw [List.getElem?_append_left hi, List.getElem?_map, hx]
    rfl
  failed i hi := by
    rw [hstates, List.getElem?_map, Option.map_eq_some_iff] at hi
    obtain ⟨x, hx, hfail⟩ := hi
    obtain ⟨hlast, hsome⟩ := isSome_failure?_of_failed hx hfail
    exact ⟨by rw [hstates, List.length_map, hlast], hfailed hsome⟩
  success hs := by
    have hnone : failure? xs = none := by
      cases h : failure? xs with
      | none => rfl
      | some e =>
        have := hfailed (by rw [h]; rfl)
        rw [hs] at this
        cases this
    rw [hstates, upToFailure_of_failure?_eq_none hnone, ← hsuccess hs]
    refine ⟨by simp, ?_⟩
    intro s hmem
    obtain ⟨x, hx, rfl⟩ := List.mem_map.1 hmem
    have hne : x.state ≠ .failed := by
      rw [Ne, state_eq_failed_iff]
      rw [failure?, List.findSome?_eq_none_iff] at hnone
      simp [hnone x hx]
    cases h : x.state with
    | done => exact .inl rfl
    | skipped => exact .inr rfl
    | failed => exact absurd h hne

/-! ## Runs -/

/-- A run of actions has their turns in order up to the first that fails. -/
theorem runActions_turns (as : List Action) (w : World) : ∃ w', ((runActions as).run w).run
    = (((upToFailure (inOrder w as)).map state, failure? (inOrder w as)), w') := by
  induction as generalizing w with
  | nil => exact ⟨w, rfl⟩
  | cons a as ih =>
    rw [runActions_cons, inOrder]
    rcases he : outcome a.execute w with ⟨e | s, w₁⟩
    · have hx : (Turn.mk a w).error? = some e := by rw [error?, ended, he]
      refine ⟨w₁, ?_⟩
      rw [upToFailure_cons_of_error hx, failure?_cons, hx]
      simp [state, ended, he]
    · have hx : (Turn.mk a w).error? = none := by rw [error?, ended, he]
      obtain ⟨w', hw'⟩ := ih w₁
      refine ⟨w', ?_⟩
      rw [upToFailure_cons_of_ok hx, failure?_cons, hx]
      simp [state, ended, he, hw']

/-- The turns of a run: none if the variables cannot be bound. -/
def turns (t : TestCase) (w : World) : List Turn :=
  match outcome t.seed w with
  | (.error _, _) => []
  | (.ok (), w₀) => inOrder w₀ t.actions

variable {t : TestCase} {w : World}

/-- A run adds no action. -/
theorem actions_record : (t.record w).actions = t.actions := by
  rw [record]
  dsimp only
  split <;> rfl

theorem accounts_record (hstates : t.states = []) :
    (t.record w).Accounts t.actions (upToFailure (t.turns w)) := by
  -- the time of the start is not looked at by anything that a run does
  have hseed : outcome { t with startedAt := some w.fresh.now }.seed w = outcome t.seed w := rfl
  rw [record, turns]
  dsimp only
  rw [hseed]
  rcases outcome t.seed w with ⟨e | ⟨⟩, w₀⟩
  · exact accounts_of_turns List.nil_prefix hstates (fun _ => rfl) fun h => by cases h
  · obtain ⟨w', hrun⟩ := runActions_turns t.actions w₀
    dsimp only
    rw [hrun]
    refine accounts_of_turns ?_ ?_ ?_ ?_
    · have := (upToFailure_isPrefix (inOrder w₀ t.actions)).map action
      rwa [map_action_inOrder] at this
    · simp [complete, hstates]
    · intro hsome
      obtain ⟨e, he⟩ := Option.isSome_iff_exists.1 hsome
      simp [complete, he]
    · exact fun _ => map_action_inOrder w₀ t.actions

end TestCase

/-! ## Runners -/

namespace Runner

open TestCase Turn

/-- A runner is given actions, each in a world of its own. -/
def runAll (t : TestCase) : List Turn → TestCase
  | [] => t
  | x :: xs => runAll ((run t x.action).run x.world).run.1.1 xs

variable {t : TestCase}

theorem runAll_of_isFailed (h : t.result.isFailed = true) (xs : List Turn) : runAll t xs = t := by
  induction xs with
  | nil => rfl
  | cons x xs ih =>
    rw [runAll, run_of_isFailed h]
    exact ih

/-- A runner records the turns up to the first that fails, and refuses the others. -/
theorem runAll_eq (h : t.result.isFailed = false) (xs : List Turn) :
    (runAll t xs).actions = t.actions ++ (upToFailure xs).map action
      ∧ (runAll t xs).states = t.states ++ (upToFailure xs).map state
      ∧ (runAll t xs).result = (failure? xs).elim t.result .ofError := by
  induction xs generalizing t with
  | nil => simp [runAll, upToFailure, failure?]
  | cons x xs ih =>
    rw [runAll, run_eq h, failure?_cons]
    rcases he : outcome x.action.execute x.world with ⟨e | s, w₁⟩
    · have hx : x.error? = some e := by rw [error?, ended, he]
      have hs : x.state = .failed := by rw [state, ended, he]
      rw [upToFailure_cons_of_error hx, hx]
      dsimp only
      rw [runAll_of_isFailed rfl]
      simp [complete, add, hs]
    · have hx : x.error? = none := by rw [error?, ended, he]
      have hs : x.state = s := by rw [state, ended, he]
      obtain ⟨hactions, hstates, hresult⟩ :=
        @ih { t.add x.action with states := t.states ++ [s] } h
      rw [upToFailure_cons_of_ok hx, hx]
      dsimp only
      rw [hactions, hstates, hresult]
      simp [add, hs]

/-- The end of a runner changes the result only. -/
theorem finish_runAll (h : t.result = .pending) (xs : List Turn) (w : World) :
    ((finish (runAll t xs)).run w).run.1.actions = (runAll t xs).actions
      ∧ ((finish (runAll t xs)).run w).run.1.states = (runAll t xs).states
      ∧ ((finish (runAll t xs)).run w).run.1.result = (failure? xs).elim .success .ofError := by
  obtain ⟨-, -, hresult⟩ := runAll_eq (by rw [h]; rfl) xs
  rw [h] at hresult
  rw [finish_eq]
  cases hf : failure? xs with
  | none =>
    rw [hf] at hresult
    have hpending : (runAll t xs).result = .pending := hresult
    rw [if_pos hpending]
    exact ⟨rfl, rfl, rfl⟩
  | some e =>
    rw [hf] at hresult
    rw [if_neg (by rw [hresult]; exact nofun)]
    exact ⟨rfl, rfl, hresult⟩

/-- The states of a test case that a runner has driven account for the actions that the runner was
given. -/
theorem accounts_runAll {t' : TestCase} {xs : List Turn} {r : TestResult}
    (hresult : t'.result = (failure? xs).elim r .ofError)
    (hstates : t'.states = (upToFailure xs).map state) :
    t'.Accounts ((upToFailure xs).map action) (upToFailure xs) := by
  refine accounts_of_turns List.prefix_rfl hstates ?_ ?_
  · intro hsome
    obtain ⟨e, he⟩ := Option.isSome_iff_exists.1 hsome
    rw [hresult, he]
    rfl
  · intro hs
    cases hf : failure? xs with
    | none => rw [upToFailure_of_failure?_eq_none hf]
    | some e =>
      rw [hresult, hf] at hs
      cases hs

end Runner

namespace TestCase

open Turn

/-- The states account for the actions that were run: in a run for all declared actions, and with a
runner for those that it was given. The actions that were declared before the runner was started
have no states, so that a success of the runner is one of all actions only if none was declared. -/
theorem states_account (t : TestCase) (hstates : t.states = []) (hresult : t.result = .pending) :
    (∀ w, (t.run.run w).run.1.1.actions = t.actions
        ∧ (t.run.run w).run.1.1.Accounts t.actions (upToFailure (t.turns w)))
      ∧ ∀ w t₁ w₁, ((Runner.start t).run w).run = ((t₁, .ok ()), w₁) → ∀ xs w₂,
        (Runner.runAll t₁ xs).actions = t.actions ++ (upToFailure xs).map action
          ∧ (Runner.runAll t₁ xs).Accounts ((upToFailure xs).map action) (upToFailure xs)
          ∧ ((Runner.finish (Runner.runAll t₁ xs)).run w₂).run.1.actions
            = t.actions ++ (upToFailure xs).map action
          ∧ ((Runner.finish (Runner.runAll t₁ xs)).run w₂).run.1.Accounts
            ((upToFailure xs).map action) (upToFailure xs)
          ∧ (((Runner.finish (Runner.runAll t₁ xs)).run w₂).run.1.result = .success →
            (((Runner.finish (Runner.runAll t₁ xs)).run w₂).run.1.Accounts
              (t.actions ++ (upToFailure xs).map action) (upToFailure xs) ↔ t.actions = [])) := by
  constructor
  · intro w
    rw [run_eq hresult]
    exact ⟨actions_record, accounts_record hstates⟩
  · intro w t₁ w₁ hstart xs w₂
    obtain ⟨hdeclared, hnone, hpending⟩ :
        t₁.actions = t.actions ∧ t₁.states = [] ∧ t₁.result = .pending := by
      obtain rfl := Runner.start_eq_ok hstart
      exact ⟨rfl, hstates, hresult⟩
    obtain ⟨hactions, hrun, hopen⟩ := Runner.runAll_eq (by rw [hpending]; rfl) xs
    obtain ⟨hactions', hrun', hclosed⟩ := Runner.finish_runAll hpending xs w₂
    rw [hdeclared] at hactions
    rw [hnone, List.nil_append] at hrun
    have hbefore := Runner.accounts_runAll hopen hrun
    have hafter := Runner.accounts_runAll hclosed (hrun'.trans hrun)
    refine ⟨hactions, hbefore, hactions'.trans hactions, hafter, ?_⟩
    intro hsuccess
    constructor
    · intro h
      have hlength := (hafter.success hsuccess).1.symm.trans (h.success hsuccess).1
      rw [List.length_append] at hlength
      exact List.eq_nil_of_length_eq_zero (by omega)
    · intro hnone
      rw [hnone]
      exact hafter

/-- A runner is started on a test case with these actions, in an unused world. -/
def begun (actions : List Action) : TestCase :=
  ((Runner.start { name := "nap", actions }).run World.initial).run.1.1

/-- The runner is given these turns and finished. -/
def finished (actions : List Action) (xs : List Turn) : TestCase :=
  ((Runner.finish (Runner.runAll (begun actions) xs)).run World.initial).run.1

theorem states_account_nap : (finished [] [⟨.sleep 1, World.initial⟩]).result = .success
    ∧ (finished [] [⟨.sleep 1, World.initial⟩]).Accounts [.sleep 1]
      [⟨.sleep 1, World.initial⟩] := by
  have hstart : ((Runner.start { name := "nap" }).run World.initial).run
      = ((begun [], .ok ()), ((Runner.start { name := "nap" }).run World.initial).run.2) := rfl
  have h := (states_account { name := "nap" } rfl rfl).2 _ _ _ hstart
  exact ⟨rfl, (h [⟨.sleep 1, World.initial⟩] World.initial).2.2.2.1⟩

/-- An action that was declared is not run by a runner, and the test case is a success. -/
theorem success_without_states : (finished [.sleep 1] []).result = .success
    ∧ (finished [.sleep 1] []).actions = [.sleep 1] ∧ (finished [.sleep 1] []).states = [] :=
  ⟨rfl, rfl, rfl⟩

end TestCase
end Rehearsal

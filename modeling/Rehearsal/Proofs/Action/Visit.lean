import Rehearsal.Action.Execute
import Rehearsal.Proofs.Outcome

/-!
# What an action does itself

Every action is run in the same way: it is skipped if it is switched off, what it does itself comes
next, then the actions that it holds are run if it is a container that is entered, and an error is
wrapped with its name. `visit` is the part of it that is its own: it gives the actions that are to
be run next. Main statements: an action that is not switched off is entered, and what that gives is
run (`execute_eq`); running an action is visiting it and then running what the visit gives, within
its name (`perform_eq`).
-/

namespace Rehearsal

namespace Run

variable {α β : Type}

/-- Errors carry the name of the action that they come from, and the world is left as it is. -/
theorem outcome_within (action : String) (x : Run α) (w : World) :
    outcome (within action x) w = match outcome x w with
      | (.ok a, w') => (.ok a, w')
      | (.error e, w') => (.error (.execution action e), w') := by
  have h : outcome (liftM x.run : Run (Except Error α)) w
      = (.ok (outcome x w).1, (outcome x w).2) := rfl
  rw [within, outcome_bind_of_ok h]
  rcases outcome x w with ⟨e | a, w'⟩ <;> rfl

theorem within_pure (action : String) (a : α) : within action (pure a) = pure a := by
  apply outcome_ext
  intro w
  rw [outcome_within, outcome_pure]

/-- The parts of a computation are wrapped one by one. -/
theorem within_bind (action : String) (x : Run α) (f : α → Run β) :
    within action (x >>= f) = within action x >>= fun a => within action (f a) := by
  apply outcome_ext
  intro w
  rw [outcome_within, outcome_bind, outcome_bind, outcome_within]
  rcases outcome x w with ⟨e | a, w'⟩
  · rfl
  · exact (outcome_within action (f a) w').symm

/-- An endpoint is looked up where names refer to now, and nothing else happens. -/
theorem outcome_endpoint (r : Reference Endpoint) (w : World) :
    outcome (endpoint r) w = (r.get w.context.bindings.endpoint, w) := by
  show outcome (liftM (r.get w.context.bindings.endpoint) : Run Endpoint) w = _
  cases r.get w.context.bindings.endpoint <;> rfl

/-- The action's own actor decides, and the endpoint's where it has none; only then is the endpoint
looked up. -/
theorem outcome_isDisabled (actor : Option Actor) (r : Reference Endpoint) (w : World) :
    outcome (isDisabled actor r) w = (match actor with
      | some a => .ok a.disabled
      | none => (r.get w.context.bindings.endpoint).map fun e => e.actor.any (·.disabled), w) := by
  cases actor with
  | some a => rfl
  | none =>
    show outcome (endpoint r >>= fun e => pure (e.actor.any (·.disabled))) w = _
    rw [outcome_bind, outcome_endpoint]
    cases r.get w.context.bindings.endpoint <;> rfl

end Run

namespace Action

/-! ## Visiting -/

/-- What a container holds. -/
def children : Action → List Action
  | .sequence _ _ actions => actions
  | .conditional _ _ _ actions => actions
  | _ => []

/-- Is an action switched off? -/
def disabled : Action → Run Bool
  | .send s => Run.isDisabled s.actor s.endpoint
  | .receive r => Run.isDisabled r.actor r.endpoint
  | a => pure (a.actor?.any (·.disabled))

/-- What an action that is not switched off does itself, and what it would have run after that: a
leaf nothing, and a container what it holds. -/
def enter : Action → Run (List Action)
  | .echo message => do
    let _ ← Run.resolve message
    return []
  | .fail message => do throw (.validation (.other (← Run.resolve message)))
  | .sleep _ => return []
  | .createVariables vars => do
    Run.bindTemplates vars.entries
    return []
  | .send s => do
    s.run
    return []
  | .receive r => do
    r.run
    return []
  | .sequence _ _ actions => return actions
  | .conditional _ _ condition actions => do
    if ← Run.draw fun c => c.holds condition then return actions else return []
  | .custom _ _ body => do
    body
    return []

/-- What an action does itself, and what is to be run after that. -/
def visit (a : Action) : Run (List Action) := do
  if ← a.disabled then return []
  a.enter

theorem outcome_bind_nil {x : Run Unit} {w w' : World} {as : List Action}
    (h : outcome (x >>= fun _ => pure []) w = (.ok as, w')) : as = [] := by
  obtain ⟨_, _, -, h⟩ := outcome_bind_eq_ok.1 h
  cases h
  rfl

/-- After a visit nothing is to be run, or all that the action holds. -/
theorem eq_nil_or_eq_children {a : Action} {as : List Action} {w w' : World}
    (h : outcome a.visit w = (.ok as, w')) : as = [] ∨ as = a.children := by
  obtain ⟨b, w'', -, h⟩ := outcome_bind_eq_ok.1 h
  cases b with
  | true =>
    cases h
    exact .inl rfl
  | false =>
    have h : outcome a.enter w'' = (.ok as, w') := h
    cases a with
    | echo message =>
      obtain ⟨_, _, -, h⟩ := outcome_bind_eq_ok.1 h
      cases h
      exact .inl rfl
    | fail message =>
      obtain ⟨_, _, -, h⟩ := outcome_bind_eq_ok.1 h
      cases h
    | sleep milliseconds =>
      cases h
      exact .inl rfl
    | createVariables vars => exact .inl (outcome_bind_nil h)
    | send s => exact .inl (outcome_bind_nil h)
    | receive r => exact .inl (outcome_bind_nil h)
    | custom name actor body => exact .inl (outcome_bind_nil h)
    | sequence name actor actions =>
      cases h
      exact .inr rfl
    | conditional name actor condition actions =>
      obtain ⟨b, _, -, h⟩ := outcome_bind_eq_ok.1 h
      cases b with
      | true =>
        cases h
        exact .inr rfl
      | false =>
        cases h
        exact .inl rfl

/-- Run an action, whatever becomes of it. -/
def perform (a : Action) : Run Unit := do
  let _ ← a.execute

/-- Performing an action forgets its state. -/
theorem outcome_perform (a : Action) (w : World) :
    outcome a.perform w = match outcome a.execute w with
      | (.error e, w') => (.error e, w')
      | (.ok _, w') => (.ok (), w') := by
  rw [perform, outcome_bind]
  rcases outcome a.execute w with ⟨e | state, w'⟩ <;> rfl

/-- The world is that of the action. -/
theorem world_perform (a : Action) (w : World) :
    (outcome a.perform w).2 = (outcome a.execute w).2 := by
  rw [outcome_perform]
  rcases outcome a.execute w with ⟨e | state, w'⟩ <;> rfl

/-- Run actions in order, whatever becomes of each. -/
def performAll (as : List Action) : Run Unit := do
  let _ ← executeAll as

theorem world_performAll (as : List Action) (w : World) :
    (outcome (performAll as) w).2 = (outcome (executeAll as) w).2 := by
  rw [performAll, outcome_bind]
  rcases outcome (executeAll as) w with ⟨e | states, w'⟩ <;> rfl

theorem performAll_nil : performAll [] = pure () := by
  simp [performAll, executeAll]

theorem performAll_cons (a : Action) (as : List Action) :
    performAll (a :: as) = (do
      perform a
      performAll as) := by
  simp [performAll, perform, executeAll]

/-- Actions are performed in order, so that they can be cut anywhere. -/
theorem performAll_append (as bs : List Action) :
    performAll (as ++ bs) = (do
      performAll as
      performAll bs) := by
  induction as with
  | nil => simp [performAll_nil]
  | cons a as ih => rw [List.cons_append, performAll_cons, performAll_cons, ih, bind_assoc]

/-- Every action is skipped if it is switched off, and else done by entering it and running what
that gives; its errors are wrapped with its name. -/
theorem execute_eq (a : Action) : a.execute
    = Run.within a.name (Run.unlessDisabled a.disabled (a.enter >>= performAll)) := by
  cases a with
  | echo message =>
    simp [execute, Run.unlessDisabled, disabled, actor?, name, enter, performAll_nil]
  | fail message => simp [execute, Run.unlessDisabled, disabled, actor?, name, enter]
  | sleep milliseconds =>
    simp [execute, Run.unlessDisabled, disabled, actor?, name, enter, performAll_nil,
      Run.within_pure]
  | createVariables vars =>
    simp [execute, Run.unlessDisabled, disabled, actor?, name, enter, performAll_nil]
  | send s => simp [execute, disabled, name, enter, performAll_nil]
  | receive r => simp [execute, disabled, name, enter, performAll_nil]
  | sequence name actor actions =>
    have hbody : enter (.sequence name actor actions) >>= performAll = performAll actions := by
      simp [enter]
    rw [execute, hbody, performAll]
    rfl
  | conditional name actor condition actions =>
    have hbody : enter (.conditional name actor condition actions) >>= performAll
        = Run.draw (fun c => c.holds condition) >>= fun b =>
          if b then performAll actions else pure () := by
      rw [enter, bind_assoc]
      congr 1
      funext b
      cases b <;> simp [performAll_nil]
    rw [execute, hbody]
    rfl
  | custom name actor body => simp [execute, disabled, actor?, Action.name, enter, performAll_nil]

/-- Running an action is visiting it and then running what the visit gives, within its name. -/
theorem perform_eq (a : Action) :
    a.perform = Run.within a.name (a.visit >>= performAll) := by
  -- an action that is switched off gives nothing to run, and so does nothing
  have hvisit : a.visit >>= performAll
      = Run.unlessDisabled a.disabled (a.enter >>= performAll) >>= fun _ => pure () := by
    simp only [visit, Run.unlessDisabled, bind_assoc]
    congr 1
    funext b
    cases b
    · simp
    · simp [performAll_nil]
  rw [perform, execute_eq, hvisit, Run.within_bind]
  simp only [Run.within_pure]

end Action
end Rehearsal

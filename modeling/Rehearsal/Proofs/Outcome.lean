import Rehearsal.World

/-!
# Outcomes of steps and runs

A step changes what is in transit and a run changes the world; both may fail, and what they have
done before stays done. The outcome is the value or the error together with the state that is left.
The lemmas here take a composed computation apart. Two properties of computations are put together
from those of their parts: what is left alone (`leavesAt_bind`), and that no more of a state is
looked at than is seen in a view of it (`respectsAt_bind`).
-/

namespace Rehearsal

variable {σ α β : Type}

/-- What a computation gives in a state, and the state that it leaves. -/
def outcome (x : ExceptT Error (StateM σ) α) (s : σ) : Except Error α × σ := (x.run s).run

/-- Computations are the same if their outcomes are. -/
theorem outcome_ext {x y : ExceptT Error (StateM σ) α} (h : ∀ s, outcome x s = outcome y s) :
    x = y := by
  funext s
  exact h s

theorem run_run (x : ExceptT Error (StateM σ) α) (s : σ) : (x.run.run s).run = outcome x s := rfl

theorem run_bind_state (x : StateM σ α) (f : α → StateM σ β) (s : σ) :
    ((x >>= f).run s).run = ((f (x.run s).run.1).run (x.run s).run.2).run := rfl

theorem run_get_bind (f : σ → StateM σ α) (s : σ) :
    ((get >>= f).run s).run = ((f s).run s).run := rfl

theorem outcome_pure (a : α) (s : σ) :
    outcome (pure a : ExceptT Error (StateM σ) α) s = (.ok a, s) := rfl

theorem outcome_get (s : σ) : outcome (get : ExceptT Error (StateM σ) σ) s = (.ok s, s) := rfl

section Bind
variable {x : ExceptT Error (StateM σ) α} {f : α → ExceptT Error (StateM σ) β} {s s' : σ}

theorem outcome_bind (x : ExceptT Error (StateM σ) α) (f : α → ExceptT Error (StateM σ) β)
    (s : σ) : outcome (x >>= f) s = match outcome x s with
      | (.ok a, s') => outcome (f a) s'
      | (.error e, s') => (.error e, s') := by
  show (ExceptT.bindCont f ((x.run s).run).1 ((x.run s).run).2).run = _
  rw [outcome]
  rcases (x.run s).run with ⟨a | a, s'⟩ <;> rfl

theorem outcome_bind_of_ok {a : α} (h : outcome x s = (.ok a, s')) :
    outcome (x >>= f) s = outcome (f a) s' := by
  rw [outcome_bind, h]

theorem outcome_bind_of_error {e : Error} (h : outcome x s = (.error e, s')) :
    outcome (x >>= f) s = (.error e, s') := by
  rw [outcome_bind, h]

/-- Both parts succeed, the second one in the state that the first one leaves. -/
theorem outcome_bind_eq_ok {b : β} : outcome (x >>= f) s = (.ok b, s')
    ↔ ∃ a s'', outcome x s = (.ok a, s'') ∧ outcome (f a) s'' = (.ok b, s') := by
  rw [outcome_bind]
  rcases outcome x s with ⟨e | a, s''⟩
  · simp
  · constructor
    · exact fun h => ⟨a, s'', rfl, h⟩
    · rintro ⟨a', s₃, h, hf⟩
      cases h
      exact hf

/-- The first part fails, or the second one does after it. -/
theorem outcome_bind_eq_error {e : Error} : outcome (x >>= f) s = (.error e, s')
    ↔ outcome x s = (.error e, s')
      ∨ ∃ a s'', outcome x s = (.ok a, s'') ∧ outcome (f a) s'' = (.error e, s') := by
  rw [outcome_bind]
  rcases outcome x s with ⟨e | a, s''⟩
  · simp
  · constructor
    · exact fun h => .inr ⟨a, s'', rfl, h⟩
    · rintro (h | ⟨a', s₃, h, hf⟩)
      · cases h
      · cases h
        exact hf

end Bind

theorem outcome_liftM (r : Except Error α) (s : σ) :
    outcome (liftM r : ExceptT Error (StateM σ) α) s = (r, s) := by
  cases r <;> rfl

/-! ## What is left alone -/

section Leaves
variable {γ δ : Type} {view : σ → γ}

/-- The view of this state is the same after the computation, also after one that fails. -/
def LeavesAt (view : σ → γ) (x : ExceptT Error (StateM σ) α) (s : σ) : Prop :=
  view (outcome x s).2 = view s

/-- The view of the state is the same after the computation, whatever the state is. -/
def Leaves (view : σ → γ) (x : ExceptT Error (StateM σ) α) : Prop := ∀ s, LeavesAt view x s

theorem leaves_pure (a : α) : Leaves view (pure a) := fun _ => rfl

theorem leaves_throw (e : Error) : Leaves view (throw e : ExceptT Error (StateM σ) α) :=
  fun _ => rfl

theorem leaves_liftM (r : Except Error α) :
    Leaves view (liftM r : ExceptT Error (StateM σ) α) := by
  intro s
  rw [LeavesAt, outcome_liftM]

theorem LeavesAt.view_eq {x : ExceptT Error (StateM σ) α} {s s' : σ} (h : LeavesAt view x s)
    {r : Except Error α} (hx : outcome x s = (r, s')) : view s' = view s := by
  rw [← h, hx]

/-- What is seen of a view is left alone with it. -/
theorem LeavesAt.map {x : ExceptT Error (StateM σ) α} {s : σ} (h : LeavesAt view x s) (f : γ → δ) :
    LeavesAt (fun s => f (view s)) x s := congrArg f h

theorem Leaves.map {x : ExceptT Error (StateM σ) α} (h : Leaves view x) (f : γ → δ) :
    Leaves (fun s => f (view s)) x := fun s => (h s).map f

/-- The second part has to leave alone the states that the first part comes to. -/
theorem leavesAt_bind {x : ExceptT Error (StateM σ) α} {f : α → ExceptT Error (StateM σ) β} {s : σ}
    (hx : LeavesAt view x s)
    (hf : ∀ a s', outcome x s = (.ok a, s') → LeavesAt view (f a) s') :
    LeavesAt view (x >>= f) s := by
  rcases h : outcome x s with ⟨e | a, s'⟩
  · rw [LeavesAt, outcome_bind_of_error h]
    exact hx.view_eq h
  · rw [LeavesAt, outcome_bind_of_ok h]
    exact (hf a s' h).trans (hx.view_eq h)

theorem leaves_bind {x : ExceptT Error (StateM σ) α} {f : α → ExceptT Error (StateM σ) β}
    (hx : Leaves view x) (hf : ∀ a, Leaves view (f a)) : Leaves view (x >>= f) :=
  fun s => leavesAt_bind (hx s) fun a s' _ => hf a s'

end Leaves

/-! ## What is looked at -/

section Respects
variable {γ : Type} {view : σ → γ}

/-- From these two states the computation gives the same, and the same is seen of what it leaves. -/
def RespectsAt (view : σ → γ) (x : ExceptT Error (StateM σ) α) (s s' : σ) : Prop :=
  (outcome x s).1 = (outcome x s').1 ∧ view (outcome x s).2 = view (outcome x s').2

/-- The computation looks at nothing but the view of the state. -/
def Respects (view : σ → γ) (x : ExceptT Error (StateM σ) α) : Prop :=
  ∀ s s', view s = view s' → RespectsAt view x s s'

theorem respects_pure (a : α) : Respects view (pure a) := fun _ _ h => ⟨rfl, h⟩

theorem respects_throw (e : Error) : Respects view (throw e : ExceptT Error (StateM σ) α) :=
  fun _ _ h => ⟨rfl, h⟩

/-- The second part has to respect the states that the first part comes to. -/
theorem respectsAt_bind {x : ExceptT Error (StateM σ) α} {f : α → ExceptT Error (StateM σ) β}
    {s s' : σ} (hx : RespectsAt view x s s')
    (hf : ∀ a t t', outcome x s = (.ok a, t) → outcome x s' = (.ok a, t') → view t = view t' →
      RespectsAt view (f a) t t') : RespectsAt view (x >>= f) s s' := by
  obtain ⟨hresult, hview⟩ := hx
  rcases h : outcome x s with ⟨r, t⟩
  rcases h' : outcome x s' with ⟨r', t'⟩
  rw [h, h'] at hresult hview
  obtain rfl : r = r' := hresult
  cases r with
  | error e =>
    rw [RespectsAt, outcome_bind_of_error h, outcome_bind_of_error h']
    exact ⟨rfl, hview⟩
  | ok a =>
    rw [RespectsAt, outcome_bind_of_ok h, outcome_bind_of_ok h']
    exact hf a t t' h h' hview

theorem respects_bind {x : ExceptT Error (StateM σ) α} {f : α → ExceptT Error (StateM σ) β}
    (hx : Respects view x) (hf : ∀ a, Respects view (f a)) : Respects view (x >>= f) :=
  fun s s' h => respectsAt_bind (hx s s' h) fun a t t' _ _ ht => hf a t t' ht

end Respects

/-! ## Steps -/

namespace Step

theorem outcome_message (t : Transit) : outcome Step.message t = (.ok t.message, t) := rfl

theorem outcome_context (t : Transit) : outcome Step.context t = (.ok t.context, t) := rfl

theorem outcome_scope (t : Transit) : outcome Step.scope t = (.ok t.scope, t) := rfl

variable {d : Draw α} {t : Transit}

theorem outcome_draw_of_ok {a : α} {fresh : Fresh} (h : d.run t.fresh = .ok (a, fresh)) :
    outcome (Step.draw d) t = (.ok a, { t with fresh }) := by
  rw [Step.draw, outcome_bind_of_ok (outcome_get t), h]
  rfl

theorem outcome_draw_of_error {e : Error} (h : d.run t.fresh = .error e) :
    outcome (Step.draw d) t = (.error e, t) := by
  rw [Step.draw, outcome_bind_of_ok (outcome_get t), h]
  rfl

end Step

/-! ## Runs -/

namespace Run

variable {f : Context → Draw α} {w : World}

theorem outcome_draw_of_ok {a : α} {fresh : Fresh}
    (h : (f w.context).run w.fresh = .ok (a, fresh)) :
    outcome (Run.draw f) w = (.ok a, { w with fresh }) := by
  rw [Run.draw, outcome_bind_of_ok (outcome_get w), h]
  rfl

theorem outcome_draw_of_error {e : Error} (h : (f w.context).run w.fresh = .error e) :
    outcome (Run.draw f) w = (.error e, w) := by
  rw [Run.draw, outcome_bind_of_ok (outcome_get w), h]
  rfl

end Run
end Rehearsal

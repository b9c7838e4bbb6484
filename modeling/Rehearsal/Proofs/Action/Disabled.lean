import Rehearsal.Proofs.Action.Background

/-!
# Actions that are switched off

An action is switched off by its own actor, or by that of the endpoint that it sends to or receives
from if it has none of its own. Whether it is depends on what names refer to and on nothing else,
and to find out changes nothing (`Action.outcome_disabled`). Main statement: an action is skipped if
it is switched off, and only then (`Action.outcome_execute_eq_skipped_iff`).
-/

namespace Rehearsal

namespace Run

/-- An actor of its own comes before that of the endpoint. -/
theorem outcome_isDisabled_of_endpoint {r : Reference Endpoint} {w : World} {e : Endpoint}
    (h : r.get w.context.bindings.endpoint = .ok e) (actor : Option Actor) :
    outcome (isDisabled actor r) w = (.ok ((actor.or e.actor).any (·.disabled)), w) := by
  rw [outcome_isDisabled, h]
  cases actor <;> rfl

/-- It is known whether an exchange is switched off, except where its endpoint is not there. -/
theorem outcome_isDisabled_cases (actor : Option Actor) (r : Reference Endpoint) (w : World) :
    (∃ b, outcome (isDisabled actor r) w = (.ok b, w))
      ∨ ∃ e, r.get w.context.bindings.endpoint = .error e
        ∧ outcome (isDisabled actor r) w = (.error e, w) := by
  rw [outcome_isDisabled]
  cases actor with
  | some actor => exact .inl ⟨actor.disabled, rfl⟩
  | none =>
    dsimp only
    cases hr : r.get w.context.bindings.endpoint with
    | ok e => exact .inl ⟨e.actor.any (·.disabled), rfl⟩
    | error e => exact .inr ⟨e, rfl, rfl⟩

section
variable {action : String} {disabled : Run Bool} {body : Run Unit} {w : World}

/-- What is switched off is skipped, without a trace. -/
theorem outcome_of_disabled (h : outcome disabled w = (.ok true, w)) :
    outcome (within action (unlessDisabled disabled body)) w = (.ok .skipped, w) := by
  rw [outcome_within, unlessDisabled, outcome_bind_of_ok h]
  rfl

/-- What is not switched off is done. -/
theorem outcome_of_enabled (h : outcome disabled w = (.ok false, w)) :
    outcome (within action (unlessDisabled disabled body)) w = match outcome body w with
      | (.ok (), w') => (.ok .done, w')
      | (.error e, w') => (.error (.execution action e), w') := by
  have hbody : outcome (unlessDisabled disabled body) w
      = outcome (body >>= fun _ => pure ActionState.done) w := by
    rw [unlessDisabled, outcome_bind_of_ok h]
    rfl
  rw [outcome_within, hbody, outcome_bind]
  rcases outcome body w with ⟨e | ⟨⟩, w'⟩ <;> rfl

theorem world_of_enabled (h : outcome disabled w = (.ok false, w)) :
    (outcome (within action (unlessDisabled disabled body)) w).2 = (outcome body w).2 := by
  rw [outcome_of_enabled h]
  rcases outcome body w with ⟨e | ⟨⟩, w'⟩ <;> rfl

/-- What is done counts, not how it is done. -/
theorem outcome_of_known {body' : Run Unit} {b : Bool} (h : outcome disabled w = (.ok b, w))
    (hbody : outcome body w = outcome body' w) :
    outcome (within action (unlessDisabled disabled body)) w
      = outcome (within action (unlessDisabled disabled body')) w := by
  cases b with
  | true => rw [outcome_of_disabled h, outcome_of_disabled h]
  | false => rw [outcome_of_enabled h, outcome_of_enabled h, hbody]

/-- Where there is no telling whether it is switched off, it fails. -/
theorem outcome_of_unknown {e : Error} (h : outcome disabled w = (.error e, w)) :
    outcome (within action (unlessDisabled disabled body)) w
      = (.error (.execution action e), w) := by
  rw [outcome_within, unlessDisabled, outcome_bind_of_error h]

end
end Run

namespace Action

/-- Is the action switched off? Its own actor decides; where it has none and sends or receives, the
actor of its endpoint does, if the endpoint is there. -/
def isOff (b : Bindings) (a : Action) : Bool :=
  match a.actor?, a.exchange? with
  | some actor, _ => actor.disabled
  | none, some x =>
    match x.endpoint.get b.endpoint with
    | .ok e => e.actor.any (·.disabled)
    | .error _ => false
  | none, none => false

/-- Where there is no telling, the action is not switched off. -/
theorem outcome_disabled (a : Action) (w : World) :
    outcome a.disabled w = (.ok (a.isOff w.context.bindings), w)
      ∨ a.isOff w.context.bindings = false ∧ ∃ e, outcome a.disabled w = (.error e, w) := by
  have hexchange : ∀ actor (x : Exchange), a.actor? = actor → a.exchange? = some x →
      a.disabled = Run.isDisabled actor x.endpoint →
        outcome a.disabled w = (.ok (a.isOff w.context.bindings), w)
          ∨ a.isOff w.context.bindings = false ∧ ∃ e, outcome a.disabled w = (.error e, w) := by
    intro actor x hactor hx hdisabled
    rw [hdisabled, Run.outcome_isDisabled, isOff, hactor, hx]
    cases actor with
    | some actor => exact .inl rfl
    | none =>
      dsimp only
      cases x.endpoint.get w.context.bindings.endpoint with
      | ok e => exact .inl rfl
      | error e => exact .inr ⟨rfl, e, rfl⟩
  cases a with
  | send s => exact hexchange _ _ rfl rfl rfl
  | receive r => exact hexchange _ _ rfl rfl rfl
  | sequence name actor actions => cases actor <;> exact .inl rfl
  | conditional name actor condition actions => cases actor <;> exact .inl rfl
  | custom name actor body => cases actor <;> exact .inl rfl
  | _ => exact .inl rfl

theorem outcome_disabled_of_isOff {a : Action} {w : World}
    (h : a.isOff w.context.bindings = true) : outcome a.disabled w = (.ok true, w) := by
  rcases outcome_disabled a w with hd | ⟨hoff, -⟩
  · rwa [h] at hd
  · rw [h] at hoff
    cases hoff

/-- An action that is switched off is skipped, without a trace. -/
theorem outcome_execute_of_isOff {a : Action} {w : World}
    (h : a.isOff w.context.bindings = true) : outcome a.execute w = (.ok .skipped, w) := by
  rw [execute_eq]
  exact Run.outcome_of_disabled (outcome_disabled_of_isOff h)

/-- An action is skipped if it is switched off, and only then. -/
theorem outcome_execute_eq_skipped_iff {a : Action} {w : World} :
    (outcome a.execute w).1 = .ok .skipped ↔ a.isOff w.context.bindings = true := by
  constructor
  · intro h
    rw [execute_eq] at h
    cases hoff : a.isOff w.context.bindings with
    | true => rfl
    | false =>
      rcases outcome_disabled a w with hd | ⟨-, e, hd⟩
      · rw [hoff] at hd
        rw [Run.outcome_of_enabled hd] at h
        rcases hbody : outcome (a.enter >>= performAll) w with ⟨e | ⟨⟩, w'⟩
        · rw [hbody] at h
          cases h
        · rw [hbody] at h
          cases h
      · rw [Run.outcome_of_unknown hd] at h
        cases h
  · intro h
    rw [outcome_execute_of_isOff h]

end Action
end Rehearsal

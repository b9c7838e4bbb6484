import Rehearsal.Proofs.Action.Agenda
import Rehearsal.Proofs.Message.Steps

/-!
# What a run never changes

The setup of a context is its libraries, its chain and what its names refer to. Main statements: an
action that is built in, as all is that it needs, leaves the setup as it is, and its own errors are
ordinary if the names that it refers to lead somewhere (`keeps_visit`); where its endpoint does not,
that is its error (`outcome_visit_of_misses`).
-/

namespace Rehearsal

variable {c₀ : Context}

namespace Run

variable {α : Type}

/-- The run leaves the setup, and has ordinary errors only. -/
def Keeps (c₀ : Context) (Q : α → Prop) (x : Run α) : Prop :=
  Rehearsal.Keeps (fun w : World => c₀.SameSetup w.context) Error.IsOrdinary Q x

theorem keeps_context : Keeps c₀ c₀.SameSetup Run.context :=
  keeps_bind keeps_get fun _ h => keeps_pure h

/-- What only looks at the context and takes random numbers leaves the setup. -/
theorem keeps_draw {f : Context → Draw α} (h : ∀ c, c₀.SameSetup c → (f c).IsOrdinary) :
    Keeps c₀ (fun _ => True) (Run.draw f) := by
  apply keeps_of_draw (d := fun w => f w.context)
  · exact fun w a fresh => outcome_draw_of_ok
  · exact fun w e => outcome_draw_of_error
  · exact fun w fresh hw => hw
  · exact fun w hw => h w.context hw

/-- Templates are resolved with ordinary errors only, and bind nothing. -/
theorem keeps_resolve (ho : c₀.IsOrdinary) (template : String) :
    Keeps c₀ (fun _ => True) (Run.resolve template) :=
  keeps_draw fun _ h => Scope.isOrdinary_resolve (h.libraries.isOrdinary ho.scope) template

/-- A variable is no part of the setup. -/
theorem keeps_bindVariable (name : String) (value : Json) :
    Keeps c₀ (fun _ => True) (Run.bindVariable name value) :=
  keeps_modify fun _ h => ⟨h.libraries, h.chain, h.bindings⟩

/-- Binding variables to what templates stand for leaves the setup. -/
theorem keeps_bindTemplates (ho : c₀.IsOrdinary) (templates : List (String × String)) :
    Keeps c₀ (fun _ => True) (Run.bindTemplates templates) := by
  induction templates with
  | nil => exact keeps_pure trivial
  | cons t ts ih =>
    exact keeps_bind (keeps_resolve ho _) fun _ _ =>
      keeps_bind (keeps_bindVariable _ _) fun _ _ => ih

/-- A message goes on as the step left it, and the world is what the step left of it either way. -/
theorem outcome_through (step : Step Unit) (m : Message) (w : World) :
    outcome (Run.through step m) w = match outcome step (w.setOut m) with
      | (.ok (), t) => (.ok t.message, w.after t)
      | (.error e, t) => (.error e, w.after t) := by
  have hpass : outcome (liftM (Run.pass step m) : Run (Except Error Unit × Message)) w
      = let r := outcome step (w.setOut m)
        (.ok (r.1, r.2.message), w.after r.2) := rfl
  rw [Run.through, outcome_bind_of_ok hpass]
  rcases outcome step (w.setOut m) with ⟨e | ⟨⟩, t⟩ <;> rfl

/-- A step that leaves the setup leaves it on the way of a message. -/
theorem keeps_through {step : Step Unit} (h : Step.Keeps c₀ (fun _ => True) step) (m : Message) :
    Keeps c₀ (fun _ => True) (Run.through step m) := by
  constructor
  · intro w a w' hw hx
    rw [outcome_through] at hx
    split at hx
    · next t hs =>
      cases hx
      exact ⟨(h.ok (w.setOut m) _ _ hw hs).1, trivial⟩
    · cases hx
  · intro w e w' hw hx
    rw [outcome_through] at hx
    split at hx
    · cases hx
    · next e' t hs =>
      cases hx
      exact h.error (w.setOut m) _ _ hw hs

theorem keeps_store (key : String) (m : Message) : Keeps c₀ (fun _ => True) (Run.store key m) :=
  keeps_modify fun _ h => ⟨h.libraries, h.chain, h.bindings⟩

/-- To hand a message to an endpoint with a channel is to put it into the channel. -/
theorem put_of_channel? {e : Endpoint} {c : Channel} (h : e.channel? = some c) (m : Message) :
    Run.put e m = Run.putInto c m := by
  unfold Endpoint.channel? at h
  split at h
  · next id hid =>
    cases h
    rw [Run.put, hid]
  · cases h

/-- To get a message from an endpoint with a channel is to take it from the channel. -/
theorem take_of_channel? {e : Endpoint} {c : Channel} (h : e.channel? = some c) (timeout : Nat) :
    Run.take e timeout = Run.takeFrom c timeout := by
  unfold Endpoint.channel? at h
  split at h
  · next id hid =>
    cases h
    rw [Run.take, hid]
  · cases h

/-- A full channel is an ordinary error. -/
theorem keeps_putInto (c : Channel) (m : Message) :
    Keeps c₀ (fun _ => True) (Run.putInto c m) := by
  refine keeps_bind keeps_get fun w hw => ?_
  split
  · exact keeps_set hw
  · next err herr =>
    obtain ⟨-, rfl⟩ := Queues.put_eq_error.1 herr
    exact keeps_throw trivial

/-- So is waiting in vain. -/
theorem keeps_takeFrom (c : Channel) (timeout : Nat) :
    Keeps c₀ (fun _ => True) (Run.takeFrom c timeout) := by
  refine keeps_bind keeps_get fun w hw => ?_
  split
  · exact keeps_bind (keeps_set hw) fun _ _ => keeps_pure trivial
  · exact keeps_throw trivial

/-- An endpoint that is there is found. -/
theorem keeps_endpoint {r : Reference Endpoint} {e : Endpoint}
    (h : r.get c₀.bindings.endpoint = .ok e) : Keeps c₀ (· = e) (Run.endpoint r) := by
  refine keeps_bind keeps_context fun c hc => ?_
  rw [hc.bindings, h]
  exact keeps_pure rfl

/-- A dictionary that is there is found. -/
theorem keeps_dictionary {r? : Option (Reference Dictionary)}
    (h : ∀ r, r? = some r → ∃ d, r.get c₀.bindings.dictionary = .ok d ∧ d.IsBuiltIn) :
    Keeps c₀ (fun d? => ∀ d ∈ d?, d.IsBuiltIn) (Run.dictionary r?) := by
  cases r? with
  | none => exact keeps_pure nofun
  | some r =>
    obtain ⟨d, hd, hbuilt⟩ := h r rfl
    refine keeps_bind keeps_context fun c hc => ?_
    rw [hc.bindings, hd]
    refine keeps_pure fun d' hd' => ?_
    cases hd'
    exact hbuilt

end Run

/-! ## Actions that exchange messages -/

/-- The endpoint that is referred to is a channel, if it is there. -/
def Reference.IsChannel (r : Reference Endpoint) (b : Bindings) : Prop :=
  ∀ e, r.get b.endpoint = .ok e → ∃ c, e.channel? = some c

/-- What an action that sends or receives refers to. -/
structure Exchange where
  actor : Option Actor
  endpoint : Reference Endpoint
  dictionary : Option (Reference Dictionary)
  processors : List Processor

/-- The dictionary of the exchange is there, its endpoint is a channel if it is there, and all that
it takes part in is built in. -/
structure Exchange.IsSound (b : Bindings) (x : Exchange) : Prop where
  endpoint : x.endpoint.IsChannel b
  dictionary : ∀ r, x.dictionary = some r → ∃ d, r.get b.dictionary = .ok d ∧ d.IsBuiltIn
  processors : ∀ p ∈ x.processors, p.IsBuiltIn

namespace Action

/-- What an action that sends or receives refers to. -/
def exchange? : Action → Option Exchange
  | .send s => some ⟨s.actor, s.endpoint, s.dictionary, s.processors⟩
  | .receive r => some ⟨r.actor, r.endpoint, r.dictionary, r.processors⟩
  | _ => none

/-- The action is built in, and what it refers to is there, except perhaps its endpoint. -/
def IsSound (b : Bindings) : Action → Prop
  | .custom .. => False
  | a => ∀ x, a.exchange? = some x → x.IsSound b

/-- The action looks for an endpoint that is not there: it sends or receives, and has no actor of
its own that is switched off. -/
def Misses (b : Bindings) (a : Action) (e : Error) : Prop :=
  ∃ x, a.exchange? = some x ∧ x.actor.any (·.disabled) = false
    ∧ x.endpoint.get b.endpoint = .error e

/-- Whether an exchange is switched off is found out without an error if its endpoint is there. -/
theorem keeps_isDisabled (actor : Option Actor) {r : Reference Endpoint}
    (h : ∃ e, r.get c₀.bindings.endpoint = .ok e) :
    Run.Keeps c₀ (fun _ => True) (Run.isDisabled actor r) := by
  obtain ⟨e, he⟩ := h
  cases actor with
  | some a => exact keeps_pure trivial
  | none => exact keeps_bind (Run.keeps_endpoint he) fun _ _ => keeps_pure trivial

/-- Sending leaves the setup, and its errors are ordinary if what it refers to is there. -/
theorem keeps_sendRun (ho : c₀.IsOrdinary) {s : SendAction}
    (h : ∃ e, s.endpoint.get c₀.bindings.endpoint = .ok e)
    (hx : (Exchange.mk s.actor s.endpoint s.dictionary s.processors).IsSound c₀.bindings) :
    Run.Keeps c₀ (fun _ => True) s.run := by
  obtain ⟨e, he⟩ := h
  obtain ⟨channel, hchannel⟩ := hx.endpoint e he
  refine keeps_bind (Run.keeps_endpoint he) fun e' he' => ?_
  subst he'
  refine keeps_bind (Run.keeps_draw fun c hc =>
    Builder.isOrdinary_build (hc.libraries.isOrdinary ho.scope) _ _) fun m _ => ?_
  refine keeps_bind (Run.keeps_dictionary hx.dictionary) fun attached hattached => ?_
  have hsteps : Step.Keeps c₀ (fun _ => True) (s.steps attached) :=
    keeps_bind (Processor.keeps_passes ho _ hattached) fun _ _ =>
      Processor.keeps_runAll ho hx.processors
  refine keeps_bind (Run.keeps_through hsteps m) fun m _ => ?_
  rw [Run.put_of_channel? hchannel]
  exact keeps_bind (Run.keeps_store _ _) fun _ _ => Run.keeps_putInto _ _

/-- A control message is built and compared with ordinary errors only. -/
theorem keeps_check (ho : c₀.IsOrdinary) (r : ReceiveAction) (m : Message) :
    Run.Keeps c₀ (fun _ => True) (r.check m) := by
  unfold ReceiveAction.check
  split
  · exact keeps_pure trivial
  · refine keeps_bind (Run.keeps_draw fun c hc =>
      Builder.isOrdinary_build (hc.libraries.isOrdinary ho.scope) _ _) fun control _ => ?_
    exact Run.keeps_draw fun c hc =>
      Scope.isOrdinary_validate (hc.libraries.isOrdinary ho.scope) _ _ _

/-- Receiving leaves the setup, and its errors are ordinary if what it refers to is there. -/
theorem keeps_receiveRun (ho : c₀.IsOrdinary) {r : ReceiveAction}
    (h : ∃ e, r.endpoint.get c₀.bindings.endpoint = .ok e)
    (hx : (Exchange.mk r.actor r.endpoint r.dictionary r.processors).IsSound c₀.bindings) :
    Run.Keeps c₀ (fun _ => True) r.run := by
  obtain ⟨e, he⟩ := h
  obtain ⟨channel, hchannel⟩ := hx.endpoint e he
  refine keeps_bind (Run.keeps_endpoint he) fun e' he' => ?_
  subst he'
  rw [Run.take_of_channel? hchannel]
  refine keeps_bind (Run.keeps_takeFrom _ _) fun m _ => ?_
  refine keeps_bind (Run.keeps_dictionary hx.dictionary) fun attached hattached => ?_
  refine keeps_bind (Run.keeps_through (Processor.keeps_passes ho _ hattached) m) fun m _ => ?_
  refine keeps_bind (keeps_check ho r m) fun _ _ => ?_
  refine keeps_bind (Run.keeps_through (Processor.keeps_runAll ho hx.processors) m) fun m _ => ?_
  exact Run.keeps_store _ _

/-- What comes after an action of its own is nothing. -/
theorem keeps_bind_nil {α : Type} {x : Run α} (h : Run.Keeps c₀ (fun _ => True) x) :
    Run.Keeps c₀ (fun _ => True) (x >>= fun _ => (pure [] : Run (List Action))) :=
  keeps_bind h fun _ _ => keeps_pure trivial

/-- A sound action that finds its endpoint leaves the setup, and its own errors are ordinary. -/
theorem keeps_visit (ho : c₀.IsOrdinary) {a : Action} (ha : a.IsSound c₀.bindings)
    (h : ∀ x, a.exchange? = some x → ∃ e, x.endpoint.get c₀.bindings.endpoint = .ok e) :
    Run.Keeps c₀ (fun _ => True) a.visit := by
  have hdisabled : Run.Keeps c₀ (fun _ => True) a.disabled := by
    cases a with
    | send s => exact keeps_isDisabled s.actor (h _ rfl)
    | receive r => exact keeps_isDisabled r.actor (h _ rfl)
    | _ => exact keeps_pure trivial
  refine keeps_bind hdisabled fun b _ => ?_
  cases b with
  | true => exact keeps_pure trivial
  | false =>
    show Run.Keeps c₀ (fun _ => True) a.enter
    cases a with
    | echo message => exact keeps_bind_nil (Run.keeps_resolve ho message)
    | fail message =>
      exact keeps_bind (Run.keeps_resolve ho message) fun _ _ => keeps_throw trivial
    | sleep milliseconds => exact keeps_pure trivial
    | createVariables vars => exact keeps_bind_nil (Run.keeps_bindTemplates ho _)
    | send s => exact keeps_bind_nil (keeps_sendRun ho (h _ rfl) (ha _ rfl))
    | receive r => exact keeps_bind_nil (keeps_receiveRun ho (h _ rfl) (ha _ rfl))
    | sequence name actor actions => exact keeps_pure trivial
    | conditional name actor condition actions =>
      refine keeps_bind (Run.keeps_draw fun c hc =>
        Scope.isOrdinary_holds (hc.libraries.isOrdinary ho.scope) condition) fun b _ => ?_
      cases b <;> exact keeps_pure trivial
    | custom name actor body => exact absurd ha id

/-! ### Missing endpoints -/

section
variable {a : Action} {x : Exchange} {e : Error} {w : World} {r : Reference Endpoint}
  {actor : Option Actor}

/-- What an exchange misses is named in its error. -/
theorem Misses.eq_referenceNotFound {b : Bindings} (h : a.Misses b e) :
    ∃ name, e = .referenceNotFound name .endpoint := by
  obtain ⟨x, -, -, he⟩ := h
  cases hr : x.endpoint with
  | direct d =>
    rw [hr] at he
    cases he
  | named name =>
    rw [hr] at he
    have he : b.endpoint name = .error e := he
    unfold Bindings.endpoint at he
    split at he
    · cases he
    · cases he
      exact ⟨name, rfl⟩

/-- An endpoint that is not there fails with the error that says so. -/
theorem outcome_endpoint_of_error (h : r.get w.context.bindings.endpoint = .error e) :
    outcome (Run.endpoint r) w = (.error e, w) := by
  rw [Run.outcome_endpoint, h]

/-- Where the endpoint is not there, only an actor can say what is switched off. -/
theorem outcome_isDisabled_of_error (hd : actor.any (·.disabled) = false)
    (h : r.get w.context.bindings.endpoint = .error e) :
    outcome (Run.isDisabled actor r) w = (.ok false, w)
      ∨ outcome (Run.isDisabled actor r) w = (.error e, w) := by
  cases actor with
  | none => exact .inr (outcome_bind_of_error (outcome_endpoint_of_error h))
  | some actor =>
    left
    have hd : actor.disabled = false := hd
    rw [← hd]
    rfl

/-- An exchange without its endpoint does not get as far as its body. -/
theorem outcome_enter_of_error (hx : a.exchange? = some x)
    (h : x.endpoint.get w.context.bindings.endpoint = .error e) :
    outcome a.enter w = (.error e, w) := by
  cases a with
  | send s =>
    cases hx
    exact outcome_bind_of_error (outcome_bind_of_error (outcome_endpoint_of_error h))
  | receive r =>
    cases hx
    exact outcome_bind_of_error (outcome_bind_of_error (outcome_endpoint_of_error h))
  | _ => cases hx

/-- An exchange is switched off by its actor, or by that of its endpoint. -/
theorem disabled_eq (hx : a.exchange? = some x) :
    a.disabled = Run.isDisabled x.actor x.endpoint := by
  cases a with
  | send s =>
    cases hx
    rfl
  | receive r =>
    cases hx
    rfl
  | _ => cases hx

/-- An endpoint that is not there is the error of the action. -/
theorem outcome_visit_of_misses (h : a.Misses w.context.bindings e) :
    outcome a.visit w = (.error e, w) := by
  obtain ⟨x, hx, hd, he⟩ := h
  rw [visit, disabled_eq hx]
  rcases outcome_isDisabled_of_error hd he with hb | hb
  · rw [outcome_bind_of_ok hb]
    exact outcome_enter_of_error hx he
  · exact outcome_bind_of_error hb

/-- An actor of its own that is switched off keeps the action from looking for anything. -/
theorem outcome_visit_of_disabled (hx : a.exchange? = some x)
    (hd : x.actor.any (·.disabled) = true) : outcome a.visit w = (.ok [], w) := by
  obtain ⟨actor, hactor, hd⟩ := (Option.any_eq_true _ _).1 hd
  have hb : outcome (Run.isDisabled x.actor x.endpoint) w = (.ok true, w) := by
    rw [hactor, ← hd]
    rfl
  rw [visit, disabled_eq hx, outcome_bind_of_ok hb]
  rfl

end

/-- What a visit does of a sound action: the setup stays, and the error is ordinary, or there is no
endpoint. -/
theorem keeps_visit_of_isSound (ho : c₀.IsOrdinary) {a : Action} (ha : a.IsSound c₀.bindings) :
    Rehearsal.Keeps (fun w : World => c₀.SameSetup w.context)
      (fun e => e.IsOrdinary ∨ a.Misses c₀.bindings e) (fun _ => True) a.visit := by
  -- if an endpoint is not there, the visit does nothing at all, or it fails without a trace
  by_cases h : ∃ x, a.exchange? = some x ∧ ∃ e, x.endpoint.get c₀.bindings.endpoint = .error e
  · obtain ⟨x, hx, e, he⟩ := h
    cases hd : x.actor.any (·.disabled) with
    | true =>
      have hv := fun w => outcome_visit_of_disabled (w := w) hx hd
      constructor
      · intro w as w' hw h
        rw [hv] at h
        cases h
        exact ⟨hw, trivial⟩
      · intro w e w' hw h
        rw [hv] at h
        cases h
    | false =>
      have hm : a.Misses c₀.bindings e := ⟨x, hx, hd, he⟩
      have hv : ∀ w : World, c₀.SameSetup w.context → outcome a.visit w = (.error e, w) := by
        intro w hw
        exact outcome_visit_of_misses (hw.bindings ▸ hm)
      constructor
      · intro w as w' hw h
        rw [hv w hw] at h
        cases h
      · intro w e' w' hw h
        rw [hv w hw] at h
        cases h
        exact ⟨hw, .inr hm⟩
  · have hk : Run.Keeps c₀ (fun _ => True) a.visit := by
      refine keeps_visit ho ha fun x hx => ?_
      cases hg : x.endpoint.get c₀.bindings.endpoint with
      | ok e => exact ⟨e, rfl⟩
      | error e => exact absurd ⟨x, hx, e, hg⟩ h
    constructor
    · exact hk.ok
    · intro w e w' hw h
      obtain ⟨hw', he⟩ := hk.error w e w' hw h
      exact ⟨hw', .inl he⟩

end Action
end Rehearsal

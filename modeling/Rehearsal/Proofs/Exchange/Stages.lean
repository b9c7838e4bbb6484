import Rehearsal.Proofs.Action.Disabled

/-!
# The stages of an exchange

To send is to prepare a message, which is built and passes its steps, then to store it, and last to
hand it to the endpoint. To receive is to fetch a message from the endpoint, then to handle it,
which is to let it pass its steps and hold it against the control message, and last to store it.
Preparing and handling change the context by processors only that are not built in, and leave its
surroundings alone. Endpoints leave the context alone, and only a channel changes what is in a
channel. Main statements: all ways in which an action that sends or receives can end
(`SendAction.ends`, `ReceiveAction.ends`).
-/

namespace Rehearsal

variable {γ : Type}

/-- The world after a message was stored. -/
def World.storing (w : World) (key : String) (m : Message) : World :=
  { w with context := { w.context with messages := w.context.messages.insert key m } }

@[simp] theorem World.messages_storing (w : World) (key : String) (m : Message) :
    (w.storing key m).context.messages = w.context.messages.insert key m := rfl

/-! ## Endpoints -/

namespace Run

theorem outcome_putInto (w : World) (c : Channel) (m : Message) :
    outcome (Run.putInto c m) w = match w.queues.put c m with
      | .ok queues => (.ok (), { w with queues })
      | .error cause => (.error cause, w) := by
  rw [Run.putInto, outcome_bind_of_ok (outcome_get w)]
  cases w.queues.put c m <;> rfl

theorem outcome_takeFrom (w : World) (c : Channel) (timeout : Nat) :
    outcome (Run.takeFrom c timeout) w = match w.queues.take? c with
      | some (m, queues) => (.ok m, { w with queues })
      | none => (.error (.timeout c.name timeout), w) := by
  rw [Run.takeFrom, outcome_bind_of_ok (outcome_get w)]
  rcases w.queues.take? c with _ | ⟨m, queues⟩ <;> rfl

/-- To ask an endpoint for something changes nothing but the list of requests. -/
theorem leaves_ask {α : Type} (key : Nat) (request : Request)
    (answer : Carrier → Requests → Context → Except Error α) :
    Leaves (fun w => (w.context, w.queues, w.extensions)) (Run.ask key request answer) := by
  intro w
  rw [Run.ask, LeavesAt, outcome_bind_of_ok (outcome_get w)]
  cases h : answer (w.extensions.carrier key) w.requests w.context <;> rfl

theorem exists_custom {e : Endpoint} (h : e.channel? = none) :
    ∃ key, e.transport = .custom key := by
  cases ht : e.transport with
  | channel id =>
    rw [Endpoint.channel?, ht] at h
    cases h
  | custom key => exact ⟨key, rfl⟩

/-- An endpoint that is no channel changes nothing but the list of requests. -/
theorem leaves_put_of_custom {e : Endpoint} (h : e.channel? = none) (m : Message) :
    Leaves (fun w => (w.context, w.queues, w.extensions)) (Run.put e m) := by
  obtain ⟨key, hkey⟩ := exists_custom h
  rw [Run.put, hkey]
  exact leaves_bind (leaves_ask _ _ _) fun _ => leaves_ask _ _ _

theorem leaves_take_of_custom {e : Endpoint} (h : e.channel? = none) (timeout : Nat) :
    Leaves (fun w => (w.context, w.queues, w.extensions)) (Run.take e timeout) := by
  obtain ⟨key, hkey⟩ := exists_custom h
  rw [Run.take, hkey]
  exact leaves_bind (leaves_ask _ _ _) fun _ => leaves_ask _ _ _

/-- To hand over a message does not change the context. -/
theorem leaves_put (e : Endpoint) (m : Message) :
    Leaves (fun w => (w.context, w.extensions)) (Run.put e m) := by
  cases hc : e.channel? with
  | some c =>
    intro w
    rw [put_of_channel? hc, LeavesAt, outcome_putInto]
    cases w.queues.put c m <;> rfl
  | none => exact (leaves_put_of_custom hc m).map fun s => (s.1, s.2.2)

/-- To get a message does not change the context. -/
theorem leaves_take (e : Endpoint) (timeout : Nat) :
    Leaves (fun w => (w.context, w.extensions)) (Run.take e timeout) := by
  cases hc : e.channel? with
  | some c =>
    intro w
    rw [take_of_channel? hc, LeavesAt, outcome_takeFrom]
    rcases w.queues.take? c with _ | ⟨m, queues⟩ <;> rfl
  | none => exact (leaves_take_of_custom hc timeout).map fun s => (s.1, s.2.2)

end Run

/-! ## Sending -/

namespace SendAction

/-- The message that is ready to be sent, and where to. -/
def prepare (s : SendAction) : Run (Endpoint × Message) := do
  let e ← Run.endpoint s.endpoint
  let m ← Run.draw fun c => s.builder.build c s.type
  let attached ← Run.dictionary s.dictionary
  let m ← Run.through (s.steps attached) m
  return (e, m)

/-- The key that a message is stored under when it is sent. -/
def key (e : Endpoint) (m : Message) : String := m.name.getD ("send(" ++ e.name ++ ")")

theorem run_eq (s : SendAction) : s.run = (do
    let (e, m) ← s.prepare
    Run.store (key e m) m
    Run.put e m) := by
  simp [run, prepare, key]

theorem surroundings_prepare (s : SendAction) : Leaves World.surroundings s.prepare := by
  refine leaves_bind ((Run.leaves_endpoint _).map World.surroundings) fun e => ?_
  refine leaves_bind ((Run.leaves_draw _).map World.surroundings) fun m => ?_
  refine leaves_bind ((Run.leaves_dictionary _).map World.surroundings) fun attached => ?_
  exact leaves_bind (Run.leaves_through _ _) fun m => leaves_pure _

theorem leavesAt_steps {s : SendAction} {t : Transit} {f : Context → γ}
    (hchain : ∀ p ∈ t.context.chain, p.Preserves t.extensions f)
    (hown : ∀ p ∈ s.processors, p.Preserves t.extensions f) (attached : Option Dictionary) :
    LeavesAt (Transit.view f) (s.steps attached) t := by
  have hpasses := Processor.leavesAt_passes hchain .outbound attached
  refine leavesAt_bind hpasses fun _ t' ht' => Processor.leavesAt_runAll fun p hp => ?_
  have hx : t'.extensions = t.extensions := congrArg Prod.snd (hpasses.view_eq ht')
  rw [hx]
  exact hown p hp

/-- What is seen of the background of the context stays, if no processor that has a part in it
changes it. -/
theorem leavesAt_prepare {s : SendAction} {w : World} {f : Context → γ}
    (h : ∀ p ∈ w.context.chain ++ s.processors, p.Preserves w.extensions f) :
    LeavesAt (World.view f) s.prepare w := by
  obtain ⟨hchain, hown⟩ := List.forall_mem_append.1 h
  refine Run.leavesAt_bind_of_background ((Run.leaves_endpoint _).map World.background)
    fun e w₁ h₁ => ?_
  refine Run.leavesAt_bind_of_background (Run.leaves_draw _) fun m w₂ h₂ => ?_
  refine Run.leavesAt_bind_of_background ((Run.leaves_dictionary _).map World.background)
    fun attached w₃ h₃ => ?_
  have hw₃ : w₃.background = w.background := h₃.trans (h₂.trans h₁)
  refine leavesAt_bind (Run.leavesAt_through (leavesAt_steps ?_ ?_ attached))
    fun m w₄ _ => leaves_pure _ w₄
  · show ∀ p ∈ w₃.context.chain, p.Preserves w₃.extensions f
    rw [World.chain_of_background hw₃, World.extensions_of_background hw₃]
    exact hchain
  · show ∀ p ∈ s.processors, p.Preserves w₃.extensions f
    rw [World.extensions_of_background hw₃]
    exact hown

/-- Sending does not change what names refer to, if no processor does. -/
theorem leavesAt_run {s : SendAction} {w : World}
    (h : ∀ p ∈ w.context.chain ++ s.processors, p.Preserves w.extensions Context.bindings) :
    LeavesAt World.meanings s.run w := by
  rw [run_eq]
  refine leavesAt_bind ((leavesAt_prepare h).map fun v => (v.1, v.2.2.1)) fun p w' _ => ?_
  refine leavesAt_bind rfl fun _ w'' _ => ?_
  exact (Run.leaves_put p.1 p.2 w'').map fun v => (v.1.bindings, v.2)

/-- The ways in which an action that sends can end, with the worlds that they leave. -/
inductive Ends (s : SendAction) (w : World) : Except Error ActionState → World → Prop
  | skipped (h : outcome (Run.isDisabled s.actor s.endpoint) w = (.ok true, w)) :
      Ends s w (.ok .skipped) w
  /-- There is no message that could be sent. -/
  | unprepared {cause : Error} {w' : World} (h : outcome s.prepare w = (.error cause, w')) :
      Ends s w (.error (.execution s.name cause)) w'
  /-- The message is ready and has been stored, but the endpoint does not take it. -/
  | refused {e : Endpoint} {m : Message} {w₁ w' : World} {cause : Error}
      (h : outcome s.prepare w = (.ok (e, m), w₁))
      (hput : outcome (Run.put e m) (w₁.storing (key e m) m) = (.error cause, w')) :
      Ends s w (.error (.execution s.name cause)) w'
  | done {e : Endpoint} {m : Message} {w₁ w' : World}
      (h : outcome s.prepare w = (.ok (e, m), w₁))
      (hput : outcome (Run.put e m) (w₁.storing (key e m) m) = (.ok (), w')) :
      Ends s w (.ok .done) w'

variable {s : SendAction} {w w' : World}

theorem queues_of_prepare {p : Except Error (Endpoint × Message)}
    (h : outcome s.prepare w = (p, w')) : w'.queues = w.queues :=
  congrArg Prod.fst ((s.surroundings_prepare w).view_eq h)

/-- Without its endpoint there is no message to be sent. -/
theorem outcome_prepare_of_error {cause : Error}
    (h : s.endpoint.get w.context.bindings.endpoint = .error cause) :
    outcome s.prepare w = (.error cause, w) := by
  apply outcome_bind_of_error
  rw [Run.outcome_endpoint, h]

/-- A message that is ready is for the endpoint that is referred to. -/
theorem endpoint_of_prepare {e : Endpoint} {m : Message}
    (h : outcome s.prepare w = (.ok (e, m), w')) :
    s.endpoint.get w.context.bindings.endpoint = .ok e := by
  obtain ⟨e', w₁, he, h⟩ := outcome_bind_eq_ok.1 h
  obtain ⟨_, _, -, h⟩ := outcome_bind_eq_ok.1 h
  obtain ⟨_, _, -, h⟩ := outcome_bind_eq_ok.1 h
  obtain ⟨_, _, -, h⟩ := outcome_bind_eq_ok.1 h
  rw [Run.outcome_endpoint] at he
  cases h
  exact congrArg Prod.fst he

/-- A message that is ready is stored, and handed to the endpoint. -/
theorem outcome_run_of_prepare {e : Endpoint} {m : Message}
    (h : outcome s.prepare w = (.ok (e, m), w')) :
    outcome s.run w = outcome (Run.put e m) (w'.storing (key e m) m) := by
  have hstore : outcome (Run.store (key e m) m) w' = (.ok (), w'.storing (key e m) m) := rfl
  rw [run_eq, outcome_bind_of_ok h]
  exact outcome_bind_of_ok hstore

/-- An action that sends ends in one of these ways. -/
theorem ends {result : Except Error ActionState}
    (h : outcome (Action.send s).execute w = (result, w')) : s.Ends w result w' := by
  rw [Action.execute] at h
  rcases Run.outcome_isDisabled_cases s.actor s.endpoint w with ⟨_ | _, hd⟩ | ⟨cause, hr, hd⟩
  · rw [Run.outcome_of_enabled hd] at h
    rcases hp : outcome s.prepare w with ⟨cause | ⟨e, m⟩, w₁⟩
    · have hrun : outcome s.run w = (.error cause, w₁) := by
        rw [run_eq, outcome_bind_of_error hp]
      rw [hrun] at h
      cases h
      exact .unprepared hp
    · rw [outcome_run_of_prepare hp] at h
      rcases hput : outcome (Run.put e m) (w₁.storing (key e m) m) with ⟨cause | ⟨⟩, w₂⟩
      · rw [hput] at h
        cases h
        exact .refused hp hput
      · rw [hput] at h
        cases h
        exact .done hp hput
  · rw [Run.outcome_of_disabled hd] at h
    cases h
    exact .skipped hd
  · rw [Run.outcome_of_unknown hd] at h
    cases h
    exact .unprepared (outcome_prepare_of_error hr)

/-- A channel takes a message that is ready if it has room, as it was before. -/
theorem outcome_put_of_prepare {e : Endpoint} {m : Message} {c : Channel} (hc : e.channel? = some c)
    (h : outcome s.prepare w = (.ok (e, m), w')) :
    outcome (Run.put e m) (w'.storing (key e m) m) = match w.queues.put c m with
      | .ok queues => (.ok (), { w'.storing (key e m) m with queues })
      | .error cause => (.error cause, w'.storing (key e m) m) := by
  rw [Run.put_of_channel? hc, Run.outcome_putInto, ← queues_of_prepare h]
  rfl

end SendAction

/-! ## Receiving -/

namespace ReceiveAction

/-- The message that comes from the endpoint, and the endpoint. -/
def fetch (r : ReceiveAction) : Run (Endpoint × Message) := do
  let e ← Run.endpoint r.endpoint
  let m ← Run.take e (r.timeout.getD e.timeout)
  return (e, m)

/-- What a message that was fetched has become in the end, if nothing is wrong with it. -/
def handle (r : ReceiveAction) (m : Message) : Run Message := do
  let attached ← Run.dictionary r.dictionary
  let m ← Run.through (Processor.passes .inbound attached) m
  r.check m
  Run.through (Processor.runAll r.processors) m

/-- The key that a message is stored under when it is received. -/
def key (e : Endpoint) (m : Message) : String := m.name.getD ("receive(" ++ e.name ++ ")")

theorem run_eq (r : ReceiveAction) : r.run = (do
    let (e, m) ← r.fetch
    let m ← r.handle m
    Run.store (key e m) m) := by
  simp [run, fetch, handle, key]

theorem leaves_check (r : ReceiveAction) (m : Message) : Leaves World.background (r.check m) := by
  unfold check
  split
  · exact leaves_pure ()
  · exact leaves_bind (Run.leaves_draw _) fun control => Run.leaves_draw _

theorem surroundings_handle (r : ReceiveAction) (m : Message) :
    Leaves World.surroundings (r.handle m) := by
  refine leaves_bind ((Run.leaves_dictionary _).map World.surroundings) fun attached => ?_
  refine leaves_bind (Run.leaves_through _ _) fun m => ?_
  exact leaves_bind ((r.leaves_check m).map World.surroundings) fun _ => Run.leaves_through _ _

/-- What is seen of the background of the context stays, if no processor that has a part in it
changes it. -/
theorem leavesAt_handle {r : ReceiveAction} {w : World} {f : Context → γ}
    (h : ∀ p ∈ w.context.chain ++ r.processors, p.Preserves w.extensions f) (m : Message) :
    LeavesAt (World.view f) (r.handle m) w := by
  obtain ⟨hchain, hown⟩ := List.forall_mem_append.1 h
  refine Run.leavesAt_bind_of_background ((Run.leaves_dictionary _).map World.background)
    fun attached w₁ h₁ => ?_
  have hpasses :
      LeavesAt (World.view f) (Run.through (Processor.passes .inbound attached) m) w₁ := by
    refine Run.leavesAt_through (Processor.leavesAt_passes ?_ _ attached)
    show ∀ p ∈ w₁.context.chain, p.Preserves w₁.extensions f
    rw [World.chain_of_background h₁, World.extensions_of_background h₁]
    exact hchain
  refine leavesAt_bind hpasses fun m w₂ h₂ => ?_
  refine Run.leavesAt_bind_of_background (r.leaves_check m) fun _ w₃ h₃ => ?_
  refine Run.leavesAt_through (Processor.leavesAt_runAll ?_)
  show ∀ p ∈ r.processors, p.Preserves w₃.extensions f
  rw [World.extensions_of_background h₃, World.extensions_of_view (hpasses.view_eq h₂),
    World.extensions_of_background h₁]
  exact hown

/-- To fetch a message does not change the context. -/
theorem leaves_fetch (r : ReceiveAction) :
    Leaves (fun w => (w.context, w.extensions)) r.fetch :=
  leaves_bind ((Run.leaves_endpoint _).map fun w => (w.context, w.extensions)) fun e =>
    leaves_bind (Run.leaves_take e _) fun m => leaves_pure (e, m)

/-- Receiving does not change what names refer to, if no processor does. -/
theorem leavesAt_run {r : ReceiveAction} {w : World}
    (h : ∀ p ∈ w.context.chain ++ r.processors, p.Preserves w.extensions Context.bindings) :
    LeavesAt World.meanings r.run w := by
  rw [run_eq]
  refine leavesAt_bind ((r.leaves_fetch w).map fun v => (v.1.bindings, v.2)) fun p w' h' => ?_
  obtain ⟨hcontext, hextensions⟩ := Prod.mk.inj ((r.leaves_fetch w).view_eq h')
  rw [← hcontext, ← hextensions] at h
  exact leavesAt_bind ((leavesAt_handle h p.2).map fun v => (v.1, v.2.2.1)) fun m w'' _ => rfl

theorem queues_of_handle {r : ReceiveAction} {m : Message} {w w' : World}
    {result : Except Error Message} (h : outcome (r.handle m) w = (result, w')) :
    w'.queues = w.queues :=
  congrArg Prod.fst ((r.surroundings_handle m w).view_eq h)

/-- The ways in which an action that receives can end, with the worlds that they leave. -/
inductive Ends (r : ReceiveAction) (w : World) : Except Error ActionState → World → Prop
  | skipped (h : outcome (Run.isDisabled r.actor r.endpoint) w = (.ok true, w)) :
      Ends r w (.ok .skipped) w
  /-- There is no endpoint, or no message comes from it. -/
  | unfetched {cause : Error} {w' : World} (h : outcome r.fetch w = (.error cause, w')) :
      Ends r w (.error (.execution r.name cause)) w'
  /-- A message has come, and something is wrong with it. -/
  | unhandled {e : Endpoint} {m : Message} {w₁ w' : World} {cause : Error}
      (hd : outcome (Run.isDisabled r.actor r.endpoint) w = (.ok false, w))
      (h : outcome r.fetch w = (.ok (e, m), w₁))
      (hm : outcome (r.handle m) w₁ = (.error cause, w')) :
      Ends r w (.error (.execution r.name cause)) w'
  | done {e : Endpoint} {m m' : Message} {w₁ w' : World}
      (hd : outcome (Run.isDisabled r.actor r.endpoint) w = (.ok false, w))
      (h : outcome r.fetch w = (.ok (e, m), w₁))
      (hm : outcome (r.handle m) w₁ = (.ok m', w')) :
      Ends r w (.ok .done) (w'.storing (key e m') m')

variable {r : ReceiveAction} {w w' : World}

/-- Without its endpoint no message can be fetched. -/
theorem outcome_fetch_of_error {cause : Error}
    (h : r.endpoint.get w.context.bindings.endpoint = .error cause) :
    outcome r.fetch w = (.error cause, w) := by
  apply outcome_bind_of_error
  rw [Run.outcome_endpoint, h]

theorem outcome_fetch_of_ok {e : Endpoint}
    (h : r.endpoint.get w.context.bindings.endpoint = .ok e) :
    outcome r.fetch w
      = outcome (do return (e, ← Run.take e (r.timeout.getD e.timeout))) w := by
  have he : outcome (Run.endpoint r.endpoint) w = (.ok e, w) := by rw [Run.outcome_endpoint, h]
  rw [fetch, outcome_bind_of_ok he]

/-- From a channel the message in front is fetched, if one waits there. -/
theorem outcome_fetch_of_channel {e : Endpoint} {c : Channel}
    (h : r.endpoint.get w.context.bindings.endpoint = .ok e) (hc : e.channel? = some c) :
    outcome r.fetch w = match w.queues.take? c with
      | some (m, queues) => (.ok (e, m), { w with queues })
      | none => (.error (.timeout c.name (r.timeout.getD e.timeout)), w) := by
  rw [outcome_fetch_of_ok h, outcome_bind, Run.take_of_channel? hc, Run.outcome_takeFrom]
  rcases w.queues.take? c with _ | ⟨m, queues⟩ <;> rfl

theorem queues_of_fetch_of_custom {e : Endpoint} {result : Except Error (Endpoint × Message)}
    (hr : r.endpoint.get w.context.bindings.endpoint = .ok e) (hc : e.channel? = none)
    (h : outcome r.fetch w = (result, w')) : w'.queues = w.queues := by
  have htake : Leaves World.queues (do return (e, ← Run.take e (r.timeout.getD e.timeout))) :=
    leaves_bind ((Run.leaves_take_of_custom hc _).map (·.2.1)) fun m => leaves_pure (e, m)
  rw [outcome_fetch_of_ok hr] at h
  exact (htake w).view_eq h

/-- The message comes from the endpoint that is referred to. -/
theorem endpoint_of_fetch {e : Endpoint} {m : Message}
    (h : outcome r.fetch w = (.ok (e, m), w')) :
    r.endpoint.get w.context.bindings.endpoint = .ok e := by
  obtain ⟨e', w₁, he, h⟩ := outcome_bind_eq_ok.1 h
  obtain ⟨_, _, -, h⟩ := outcome_bind_eq_ok.1 h
  rw [Run.outcome_endpoint] at he
  cases h
  exact congrArg Prod.fst he

/-- An action that receives ends in one of these ways. -/
theorem ends {result : Except Error ActionState}
    (h : outcome (Action.receive r).execute w = (result, w')) : r.Ends w result w' := by
  rw [Action.execute] at h
  rcases Run.outcome_isDisabled_cases r.actor r.endpoint w with ⟨_ | _, hd⟩ | ⟨cause, hr, hd⟩
  · rw [Run.outcome_of_enabled hd, run_eq] at h
    rcases hf : outcome r.fetch w with ⟨cause | ⟨e, m⟩, w₁⟩
    · rw [outcome_bind_of_error hf] at h
      cases h
      exact .unfetched hf
    · rw [outcome_bind_of_ok hf] at h
      dsimp only at h
      rcases hm : outcome (r.handle m) w₁ with ⟨cause | m', w₂⟩
      · rw [outcome_bind_of_error hm] at h
        cases h
        exact .unhandled hd hf hm
      · rw [outcome_bind_of_ok hm] at h
        cases h
        exact .done hd hf hm
  · rw [Run.outcome_of_disabled hd] at h
    cases h
    exact .skipped hd
  · rw [Run.outcome_of_unknown hd] at h
    cases h
    exact .unfetched (outcome_fetch_of_error hr)

end ReceiveAction
end Rehearsal

import Rehearsal.Proofs.Exchange.Stages

/-!
# What is recorded of an exchange

The messages that were sent and received are kept in the context under the keys of their actions.
A message that is received is kept when all is done, so that nothing is kept of an exchange that
fails. A message that is sent is kept before it is handed to its endpoint, so that one that is
refused there is kept as well. Main statement: what an exchange leaves in the record, for every way
that it can end, if no processor writes the record itself (`exchange_recorded`).
-/

namespace Rehearsal

/-- The processor does not write the record of messages itself. -/
def Processor.LeavesRecord (x : Extensions) (p : Processor) : Prop :=
  p.Preserves x Context.messages

theorem messages_of_view {w w' : World} (h : w'.view Context.messages = w.view Context.messages) :
    w'.context.messages = w.context.messages := congrArg Prod.fst h

namespace SendAction

variable {s : SendAction} {w w' : World}

theorem messages_of_prepare
    (hs : ∀ p ∈ w.context.chain ++ s.processors, p.LeavesRecord w.extensions)
    {p : Except Error (Endpoint × Message)} (h : outcome s.prepare w = (p, w')) :
    w'.context.messages = w.context.messages :=
  messages_of_view ((leavesAt_prepare hs).view_eq h)

/-- Whether the endpoint takes a message that is ready or refuses it, it is recorded. -/
theorem messages_of_put (hs : ∀ p ∈ w.context.chain ++ s.processors, p.LeavesRecord w.extensions)
    {e : Endpoint} {m : Message} {w₁ : World} {result : Except Error Unit}
    (h : outcome s.prepare w = (.ok (e, m), w₁))
    (hput : outcome (Run.put e m) (w₁.storing (key e m) m) = (result, w')) :
    w'.context.messages = w.context.messages.insert (key e m) m := by
  have hcontext : w'.context = (w₁.storing (key e m) m).context :=
    congrArg Prod.fst ((Run.leaves_put e m _).view_eq hput)
  rw [hcontext, World.messages_storing, messages_of_prepare hs h]

/-- A message that was sent is recorded as it was handed to the endpoint. -/
theorem recorded_of_done
    (hs : ∀ p ∈ w.context.chain ++ s.processors, p.LeavesRecord w.extensions)
    (h : outcome (Action.send s).execute w = (.ok .done, w')) :
    ∃ e m w₁, outcome s.prepare w = (.ok (e, m), w₁)
      ∧ outcome (Run.put e m) (w₁.storing (key e m) m) = (.ok (), w')
      ∧ (∀ c, e.channel? = some c → w'.queues.contents c = w.queues.contents c ++ [m])
      ∧ w'.context.messages = w.context.messages.insert (key e m) m := by
  cases ends h with
  | @done e m w₁ _ hp hput =>
    refine ⟨e, m, w₁, hp, hput, fun c hc => ?_, messages_of_put hs hp hput⟩
    rw [outcome_put_of_prepare hc hp] at hput
    split at hput
    · next queues hqueues =>
      cases hput
      exact Queues.contents_put hqueues
    · cases hput

/-- Of an action that fails to send a message nothing is recorded, except for the message that was
ready and that its endpoint refused. -/
theorem recorded_of_error
    (hs : ∀ p ∈ w.context.chain ++ s.processors, p.LeavesRecord w.extensions) {err : Error}
    (h : outcome (Action.send s).execute w = (.error err, w')) :
    (∃ cause, outcome s.prepare w = (.error cause, w') ∧ err = .execution s.name cause
        ∧ w'.context.messages = w.context.messages)
      ∨ ∃ e m w₁ cause, outcome s.prepare w = (.ok (e, m), w₁)
        ∧ outcome (Run.put e m) (w₁.storing (key e m) m) = (.error cause, w')
        ∧ err = .execution s.name cause
        ∧ (∀ c, e.channel? = some c → w.queues.hasRoomIn c = false
          ∧ cause = .channelFull c.name (c.capacity.getD 0) ∧ w'.queues = w.queues)
        ∧ w'.context.messages = w.context.messages.insert (key e m) m := by
  cases ends h with
  | unprepared hp => exact .inl ⟨_, hp, rfl, messages_of_prepare hs hp⟩
  | @refused e m w₁ _ cause hp hput =>
    refine .inr ⟨e, m, w₁, cause, hp, hput, rfl, fun c hc => ?_, messages_of_put hs hp hput⟩
    rw [outcome_put_of_prepare hc hp] at hput
    split at hput
    · cases hput
    · next cause' hfull =>
      cases hput
      obtain ⟨hroom, hcause⟩ := Queues.put_eq_error.1 hfull
      exact ⟨hroom, hcause, (queues_of_prepare hp :)⟩

end SendAction

namespace ReceiveAction

variable {r : ReceiveAction} {w w' : World}

/-- Up to the record nothing is recorded of a message that is received. -/
theorem messages_of_handle
    (hr : ∀ p ∈ w.context.chain ++ r.processors, p.LeavesRecord w.extensions) {e : Endpoint}
    {m : Message} {w₁ : World} {result : Except Error Message}
    (hf : outcome r.fetch w = (.ok (e, m), w₁)) (h : outcome (r.handle m) w₁ = (result, w')) :
    w'.context.messages = w.context.messages := by
  obtain ⟨hcontext, hextensions⟩ := Prod.mk.inj ((r.leaves_fetch w).view_eq hf)
  rw [← hcontext, ← hextensions] at hr
  rw [← hcontext]
  exact messages_of_view ((leavesAt_handle hr m).view_eq h)

/-- A message that was received is recorded as what it has become. -/
theorem recorded_of_done
    (hr : ∀ p ∈ w.context.chain ++ r.processors, p.LeavesRecord w.extensions)
    (h : outcome (Action.receive r).execute w = (.ok .done, w')) :
    ∃ e m m' w₁ w₂, outcome r.fetch w = (.ok (e, m), w₁)
      ∧ (∀ c, e.channel? = some c → w.queues.contents c = m :: w'.queues.contents c)
      ∧ outcome (r.handle m) w₁ = (.ok m', w₂)
      ∧ w'.context.messages = w.context.messages.insert (key e m') m' := by
  cases ends h with
  | @done e m m' w₁ w₂ hd hf hm =>
    refine ⟨e, m, m', w₁, w₂, hf, fun c hc => ?_, hm, ?_⟩
    · rw [outcome_fetch_of_channel (endpoint_of_fetch hf) hc] at hf
      split at hf
      · next m queues htake =>
        cases hf
        show w.queues.contents c = m :: w₂.queues.contents c
        rw [queues_of_handle hm]
        exact Queues.contents_of_take? htake
      · cases hf
    · rw [World.messages_storing, messages_of_handle hr hf hm]

/-- Of an action that fails to receive a message nothing is recorded. -/
theorem messages_of_error
    (hr : ∀ p ∈ w.context.chain ++ r.processors, p.LeavesRecord w.extensions) {err : Error}
    (h : outcome (Action.receive r).execute w = (.error err, w')) :
    w'.context.messages = w.context.messages := by
  cases ends h with
  | unfetched hf => exact congrArg (fun v => v.1.messages) ((r.leaves_fetch w).view_eq hf)
  | unhandled hd hf hm => exact messages_of_handle hr hf hm

end ReceiveAction

/-- What an exchange leaves in the record, if no processor that has a part in it writes the record
itself. A message that was sent or received is recorded under its key as it was handed to the
endpoint, or as what it has become since it came from there, and nothing else is recorded. Of an
exchange that fails nothing is recorded, except for a message that was ready to be sent and that its
endpoint refused; a channel refuses a message only where it has no room. -/
theorem exchange_recorded (w w' : World) :
    (∀ s : SendAction,
      (∀ p ∈ w.context.chain ++ s.processors, p.LeavesRecord w.extensions) →
        (outcome (Action.send s).execute w = (.ok .done, w') →
          ∃ e m w₁, outcome s.prepare w = (.ok (e, m), w₁)
            ∧ outcome (Run.put e m) (w₁.storing (SendAction.key e m) m) = (.ok (), w')
            ∧ (∀ c, e.channel? = some c → w'.queues.contents c = w.queues.contents c ++ [m])
            ∧ w'.context.messages = w.context.messages.insert (SendAction.key e m) m)
        ∧ ∀ err, outcome (Action.send s).execute w = (.error err, w') →
          (∃ cause, outcome s.prepare w = (.error cause, w') ∧ err = .execution s.name cause
              ∧ w'.context.messages = w.context.messages)
            ∨ ∃ e m w₁ cause, outcome s.prepare w = (.ok (e, m), w₁)
              ∧ outcome (Run.put e m) (w₁.storing (SendAction.key e m) m) = (.error cause, w')
              ∧ err = .execution s.name cause
              ∧ (∀ c, e.channel? = some c → w.queues.hasRoomIn c = false
                ∧ cause = .channelFull c.name (c.capacity.getD 0) ∧ w'.queues = w.queues)
              ∧ w'.context.messages = w.context.messages.insert (SendAction.key e m) m)
    ∧ ∀ r : ReceiveAction,
      (∀ p ∈ w.context.chain ++ r.processors, p.LeavesRecord w.extensions) →
        (outcome (Action.receive r).execute w = (.ok .done, w') →
          ∃ e m m' w₁ w₂, outcome r.fetch w = (.ok (e, m), w₁)
            ∧ (∀ c, e.channel? = some c → w.queues.contents c = m :: w'.queues.contents c)
            ∧ outcome (r.handle m) w₁ = (.ok m', w₂)
            ∧ w'.context.messages = w.context.messages.insert (ReceiveAction.key e m') m')
        ∧ ∀ err, outcome (Action.receive r).execute w = (.error err, w') →
          w'.context.messages = w.context.messages := by
  constructor
  · intro s hs
    exact ⟨SendAction.recorded_of_done hs, fun err => SendAction.recorded_of_error hs⟩
  · intro r hr
    exact ⟨ReceiveAction.recorded_of_done hr, fun err => ReceiveAction.messages_of_error hr⟩

/-- An endpoint with room for one message. -/
def narrow : Endpoint where
  name := "narrow"
  timeout := 0
  capacity := some 1

/-- An empty message is sent there. -/
def nudge : SendAction where
  endpoint := .direct narrow
  builder := .template none none .empty []

def narrowChannel : Channel where
  id := 0
  name := "narrow"
  capacity := some 1

/-- A world in which these messages wait there. -/
def narrowWorld (waiting : List Message) : World where
  context := {}
  queues := .set .empty narrowChannel waiting
  fresh := {}

/-- A world with a processor of its own, which empties the chain that it stands in. -/
def clearingWorld : World where
  context := { chain := [.custom .outbound 0] }
  queues := .empty
  fresh := {}
  extensions := { process := fun _ => modify fun p => { p with context.chain := [] } }

theorem exchange_recorded_nudge :
    let w' := (outcome (Action.send nudge).execute clearingWorld).2
    w'.context.chain = [] ∧ ∃ e m w₁, outcome nudge.prepare clearingWorld = (.ok (e, m), w₁)
      ∧ (∀ c, e.channel? = some c → w'.queues.contents c = [m])
      ∧ w'.context.messages = .insert .empty (SendAction.key e m) m := by
  have hdone : (outcome (Action.send nudge).execute clearingWorld).1 = .ok .done := by rfl
  have hleaves : ∀ p ∈ clearingWorld.context.chain ++ nudge.processors,
      p.LeavesRecord clearingWorld.extensions := by
    intro p hp
    obtain rfl := List.mem_singleton.1 hp
    exact fun _ => rfl
  obtain ⟨hsend, -⟩ := exchange_recorded clearingWorld
    (outcome (Action.send nudge).execute clearingWorld).2
  obtain ⟨e, m, w₁, hp, -, hcontents, hmessages⟩ := (hsend nudge hleaves).1 (Prod.ext hdone rfl)
  exact ⟨by rfl, e, m, w₁, hp, hcontents, hmessages⟩

/-- Where one message waits already, the next one is refused, and recorded. -/
theorem refused_recorded :
    let w := narrowWorld [{ id := Uuid.random 0, timestamp := ⟨0, 0⟩ }]
    (outcome (Action.send nudge).execute w).1
        = .error (.execution "send" (.channelFull "narrow" 1))
      ∧ w.context.messages.keys = []
      ∧ (outcome (Action.send nudge).execute w).2.context.messages.keys = ["send(narrow)"] :=
  ⟨by rfl, by rfl, by rfl⟩

end Rehearsal

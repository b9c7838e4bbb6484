import Rehearsal.Proofs.Exchange.Movement
import Rehearsal.Proofs.Exchange.Record

/-!
# Messages are conserved

The traffic of a run are the messages that its actions put into channels and take out of them, in
order. It tells all that a run does to the channels (`Action.leads_trafficOfAll`). Main statement:
no message is lost, added or overtaken by a run, each exchange moves the message that it is about
and no other, and no channel grows past its room (`Action.messages_conserved`).
-/

namespace Rehearsal

/-! ## Exchanges -/

/-- The movement of an action that sends: its message goes into a channel if all is done, and the
endpoint is one. -/
def SendAction.traffic (s : SendAction) (w : World) : List Movement :=
  match outcome (Action.send s).execute w, outcome s.prepare w with
  | (.ok .done, _), (.ok (e, m), _) => (e.channel?.map (.put · m)).toList
  | _, _ => []

/-- The movement of an action that receives: unless it is switched off, it takes the message that it
can fetch from a channel, whatever becomes of it. -/
def ReceiveAction.traffic (r : ReceiveAction) (w : World) : List Movement :=
  match outcome (Run.isDisabled r.actor r.endpoint) w, outcome r.fetch w with
  | (.ok false, _), (.ok (e, m), _) => (e.channel?.map (.take · m)).toList
  | _, _ => []

namespace SendAction

variable {s : SendAction} {w w' : World} {result : Except Error ActionState}

/-- Where no message goes into a channel, the channels stay as they are. -/
theorem queues_of_put {e : Endpoint} {m : Message} {w₁ : World} {r : Except Error Unit}
    (hp : outcome s.prepare w = (.ok (e, m), w₁))
    (hput : outcome (Run.put e m) (w₁.storing (key e m) m) = (r, w'))
    (h : e.channel? = none ∨ ∃ cause, r = .error cause) : w'.queues = w.queues := by
  rw [← queues_of_prepare hp]
  cases hc : e.channel? with
  | none => exact congrArg (·.2.1) ((Run.leaves_put_of_custom hc m _).view_eq hput)
  | some c =>
    rcases h with h | ⟨cause, rfl⟩
    · rw [hc] at h
      cases h
    · -- a full channel refuses the message and stays as it is
      rw [outcome_put_of_prepare hc hp] at hput
      split at hput
      · cases hput
      · cases hput
        rfl

/-- An action that sends puts one message into a channel if all is done, and else none. -/
theorem traffic_cases (h : outcome (Action.send s).execute w = (result, w')) :
    (∃ c m, result = .ok .done ∧ s.traffic w = [.put c m] ∧ w.queues.put c m = .ok w'.queues)
      ∨ (s.endpoint.IsChannel w.context.bindings → result ≠ .ok .done)
        ∧ s.traffic w = [] ∧ w'.queues = w.queues := by
  unfold traffic
  rw [h]
  cases ends h with
  | skipped hd => exact .inr ⟨nofun, rfl, rfl⟩
  | unprepared hp => exact .inr ⟨nofun, rfl, queues_of_prepare hp⟩
  | refused hp hput => exact .inr ⟨nofun, rfl, queues_of_put hp hput (.inr ⟨_, rfl⟩)⟩
  | @done e m w₁ _ hp hput =>
    rw [hp]
    cases hc : e.channel? with
    | none =>
      refine .inr ⟨fun hchannel => ?_, by simp [hc], queues_of_put hp hput (.inl hc)⟩
      obtain ⟨c, hc'⟩ := hchannel e (endpoint_of_prepare hp)
      rw [hc] at hc'
      cases hc'
    | some c =>
      refine .inl ⟨c, m, rfl, by simp [hc], ?_⟩
      rw [outcome_put_of_prepare hc hp] at hput
      split at hput
      · next queues hqueues =>
        cases hput
        exact hqueues
      · cases hput

/-- The movement of an action that sends is all that it does to the channels. -/
theorem leads_traffic (h : outcome (Action.send s).execute w = (result, w')) :
    Leads w.queues (s.traffic w) w'.queues := by
  rcases traffic_cases h with ⟨c, m, -, htraffic, hput⟩ | ⟨-, htraffic, hqueues⟩
  · rw [htraffic]
    exact .cons (.put hput) (.nil _)
  · rw [htraffic, hqueues]
    exact .nil _

end SendAction

namespace ReceiveAction

variable {r : ReceiveAction} {w w' : World} {result : Except Error ActionState}

/-- Where no message is fetched, the channels stay as they are. -/
theorem queues_of_fetch_of_error {cause : Error} (h : outcome r.fetch w = (.error cause, w')) :
    w'.queues = w.queues := by
  cases hr : r.endpoint.get w.context.bindings.endpoint with
  | error e =>
    rw [outcome_fetch_of_error hr] at h
    cases h
    rfl
  | ok e =>
    cases hc : e.channel? with
    | none => exact queues_of_fetch_of_custom hr hc h
    | some c =>
      rw [outcome_fetch_of_channel hr hc] at h
      split at h
      · cases h
      · cases h
        rfl

/-- A message that was fetched has been taken out of a channel, if the endpoint is one. -/
theorem traffic_of_fetch {e : Endpoint} {m : Message} {w₁ : World}
    (hd : outcome (Run.isDisabled r.actor r.endpoint) w = (.ok false, w))
    (h : outcome r.fetch w = (.ok (e, m), w₁)) :
    (∃ c, r.traffic w = [.take c m] ∧ w.queues.take? c = some (m, w₁.queues))
      ∨ ¬ r.endpoint.IsChannel w.context.bindings ∧ r.traffic w = [] ∧ w₁.queues = w.queues := by
  have he := endpoint_of_fetch h
  unfold traffic
  rw [hd, h]
  cases hc : e.channel? with
  | none =>
    -- an endpoint of one's own has no channel to take from
    refine .inr ⟨fun hchannel => ?_, by simp [hc], queues_of_fetch_of_custom he hc h⟩
    obtain ⟨c, hc'⟩ := hchannel e he
    rw [hc] at hc'
    cases hc'
  | some c =>
    refine .inl ⟨c, by simp [hc], ?_⟩
    rw [outcome_fetch_of_channel he hc] at h
    split at h
    · next m queues htake =>
      cases h
      exact htake
    · cases h

/-- An action that receives takes one message out of a channel if all is done, none if it is
skipped, and at most one if it fails. -/
theorem traffic_cases (h : outcome (Action.receive r).execute w = (result, w')) :
    (∃ c m, result ≠ .ok .skipped ∧ r.traffic w = [.take c m]
        ∧ w.queues.take? c = some (m, w'.queues))
      ∨ (r.endpoint.IsChannel w.context.bindings → result ≠ .ok .done)
        ∧ r.traffic w = [] ∧ w'.queues = w.queues := by
  cases ends h with
  | skipped hd =>
    refine .inr ⟨nofun, ?_, rfl⟩
    rw [traffic, hd]
  | unfetched hf =>
    refine .inr ⟨nofun, ?_, queues_of_fetch_of_error hf⟩
    rw [traffic, hf]
    split
    · next hf' => cases hf'
    · rfl
  | unhandled hd hf hm =>
    rw [queues_of_handle hm]
    rcases traffic_of_fetch hd hf with ⟨c, htraffic, htake⟩ | ⟨-, h⟩
    · exact .inl ⟨c, _, nofun, htraffic, htake⟩
    · exact .inr ⟨nofun, h⟩
  | @done e m m' w₁ w₂ hd hf hm =>
    have hqueues : (w₂.storing (key e m') m').queues = w₁.queues := (queues_of_handle hm :)
    rw [hqueues]
    rcases traffic_of_fetch hd hf with ⟨c, htraffic, htake⟩ | ⟨hchannel, h⟩
    · exact .inl ⟨c, _, nofun, htraffic, htake⟩
    · exact .inr ⟨fun hc => absurd hc hchannel, h⟩

/-- And so is that of one that receives. -/
theorem leads_traffic (h : outcome (Action.receive r).execute w = (result, w')) :
    Leads w.queues (r.traffic w) w'.queues := by
  rcases traffic_cases h with ⟨c, m, -, htraffic, htake⟩ | ⟨-, htraffic, hqueues⟩
  · rw [htraffic]
    exact .cons (.take htake) (.nil _)
  · rw [htraffic, hqueues]
    exact .nil _

/-- Where no message waits in its channel, an action that is not switched off waits in vain, and
takes none. -/
theorem outcome_execute_of_empty {e : Endpoint} {c : Channel}
    (hd : outcome (Run.isDisabled r.actor r.endpoint) w = (.ok false, w))
    (he : r.endpoint.get w.context.bindings.endpoint = .ok e) (hc : e.channel? = some c)
    (hempty : w.queues.contents c = []) :
    outcome (Action.receive r).execute w
        = (.error (.execution r.name (.timeout c.name (r.timeout.getD e.timeout))), w)
      ∧ r.traffic w = [] := by
  have htake : w.queues.take? c = none := by rw [Queues.take?, hempty]
  have hf : outcome r.fetch w = (.error (.timeout c.name (r.timeout.getD e.timeout)), w) := by
    rw [outcome_fetch_of_channel he hc, htake]
  constructor
  · rw [Action.execute, Run.outcome_of_enabled hd, run_eq, outcome_bind_of_error hf]
  · rw [traffic, hd, hf]

end ReceiveAction

/-! ## Runs -/

namespace Action

mutual
/-- The movements of an action that is run in a world. -/
def traffic : Action → World → List Movement
  | .send s, w => s.traffic w
  | .receive r, w => r.traffic w
  | .sequence _ actor actions, w =>
    if actor.any (·.disabled) then [] else trafficOfAll actions w
  | .conditional _ actor condition actions, w =>
    if actor.any (·.disabled) then []
    else match outcome (Run.draw fun c => c.holds condition) w with
      | (.ok true, w') => trafficOfAll actions w'
      | _ => []
  | .echo _, _ | .fail _, _ | .sleep _, _ | .createVariables _, _ | .custom _ _ _, _ => []

/-- The movements of actions that are run in order, up to the first that fails. -/
def trafficOfAll : List Action → World → List Movement
  | [], _ => []
  | a :: as, w => traffic a w ++ match outcome a.execute w with
    | (.ok _, w') => trafficOfAll as w'
    | (.error _, _) => []
end

/-- An action that is not built in leaves the channels alone. -/
def LeavesQueues : Action → Prop
  | .custom _ _ body => Leaves World.queues body
  | _ => True

/-- Leaves that exchange no messages leave the channels alone. -/
theorem leads_nil_of_leaf {a : Action} (h : a.LeavesQueues) (hx : a.exchange? = none)
    (hc : a.children = []) (w : World) : Leads w.queues [] (outcome a.perform w).2.queues := by
  have hvisit : LeavesAt World.queues a.visit w := by
    apply leavesAt_visit (g := World.queues)
    · rintro s rfl
      cases hx
    · rintro r rfl
      cases hx
    · rintro name actor body rfl
      exact h w
  -- what is visited leaves the channels, and there are no children to go on with
  have hqueues : LeavesAt World.queues a.perform w := by
    refine leavesAt_perform_of_visit hvisit fun w' _ => ?_
    rw [hc, performAll_nil]
    exact leaves_pure () w'
  rw [hqueues]
  exact .nil _

mutual
/-- The movements of an action are all that it does to the channels. -/
theorem leads_traffic : ∀ (a : Action), a.Hereditarily LeavesQueues → ∀ w,
    Leads w.queues (a.traffic w) (outcome a.perform w).2.queues
  | .send s, _, w => by
    rw [traffic, world_perform]
    exact SendAction.leads_traffic rfl
  | .receive r, _, w => by
    rw [traffic, world_perform]
    exact ReceiveAction.leads_traffic rfl
  | .sequence name actor actions, h, w => by
    rw [traffic, world_perform, execute]
    cases hd : actor.any (·.disabled) with
    | true =>
      rw [Run.outcome_of_disabled (outcome_pure true w)]
      exact .nil _
    | false =>
      rw [Run.world_of_enabled (outcome_pure false w)]
      exact leads_trafficOfAll actions (fun _ hb => h.child hb) w
  | .conditional name actor condition actions, h, w => by
    rw [traffic, world_perform, execute]
    cases hd : actor.any (·.disabled) with
    | true =>
      rw [Run.outcome_of_disabled (outcome_pure true w)]
      exact .nil _
    | false =>
      rw [Run.world_of_enabled (outcome_pure false w), outcome_bind]
      rcases hdraw : outcome (Run.draw fun c => c.holds condition) w with ⟨e | _ | _, w'⟩
      · rw [← Run.queues_of_draw hdraw]
        exact .nil _
      · rw [← Run.queues_of_draw hdraw]
        exact .nil _
      · rw [← Run.queues_of_draw hdraw]
        exact leads_trafficOfAll actions (fun _ hb => h.child hb) w'
  | .echo _, h, w | .fail _, h, w | .sleep _, h, w | .createVariables _, h, w
  | .custom _ _ _, h, w => by
    rw [traffic]
    exact leads_nil_of_leaf h.self rfl rfl w

/-- Movements follow one another up to the first action that fails. -/
theorem leads_trafficOfAll : ∀ (as : List Action), (∀ a ∈ as, a.Hereditarily LeavesQueues) →
    ∀ w, Leads w.queues (trafficOfAll as w) (outcome (performAll as) w).2.queues
  | [], _, w => by
    rw [trafficOfAll, performAll_nil]
    exact .nil _
  | a :: as, h, w => by
    have ha := leads_traffic a (h a List.mem_cons_self) w
    rw [world_perform] at ha
    rw [trafficOfAll, performAll_cons, outcome_bind, outcome_perform]
    rcases he : outcome a.execute w with ⟨e | state, w'⟩
    · rw [he] at ha
      rw [List.append_nil]
      exact ha
    · rw [he] at ha
      exact ha.append (leads_trafficOfAll as (fun b hb => h b (List.mem_cons_of_mem a hb)) w')
end

/-- No message is lost, added or overtaken by a run of actions, nested as they may be. For every
channel, the messages that are taken and those that are left in the end are those that were there in
the beginning and those that are put in. At any time, a channel with room for so many messages holds
no more. An action that sends to a channel moves one message if all is done, and else none. One that
receives from a channel moves one message if all is done, none if it is skipped or waits in vain,
and at most one if it fails in another way. -/
theorem messages_conserved (as : List Action) (w : World)
    (has : ∀ a ∈ as, a.Hereditarily LeavesQueues) :
    (∀ c, messagesTaken c (trafficOfAll as w) ++ (outcome (executeAll as) w).2.queues.contents c
        = w.queues.contents c ++ messagesPut c (trafficOfAll as w))
      ∧ (∀ before after, trafficOfAll as w = before ++ after →
        ∃ q, Leads w.queues before q ∧ Leads q after (outcome (executeAll as) w).2.queues
          ∧ ∀ c n, c.capacity = some n → (w.queues.contents c).length ≤ n →
            (q.contents c).length ≤ n)
      ∧ (∀ s w₁ result w₂, outcome (Action.send s).execute w₁ = (result, w₂) →
        s.endpoint.IsChannel w₁.context.bindings →
          (∃ c m, result = .ok .done ∧ s.traffic w₁ = [.put c m]
              ∧ w₁.queues.put c m = .ok w₂.queues)
            ∨ result ≠ .ok .done ∧ s.traffic w₁ = [] ∧ w₂.queues = w₁.queues)
      ∧ (∀ r w₁ result w₂, outcome (Action.receive r).execute w₁ = (result, w₂) →
        r.endpoint.IsChannel w₁.context.bindings →
          (∃ c m, result ≠ .ok .skipped ∧ r.traffic w₁ = [.take c m]
              ∧ w₁.queues.take? c = some (m, w₂.queues))
            ∨ result ≠ .ok .done ∧ r.traffic w₁ = [] ∧ w₂.queues = w₁.queues)
      ∧ ∀ r w₁ e c, outcome (Run.isDisabled r.actor r.endpoint) w₁ = (.ok false, w₁) →
        r.endpoint.get w₁.context.bindings.endpoint = .ok e → e.channel? = some c →
          w₁.queues.contents c = [] →
            outcome (Action.receive r).execute w₁
                = (.error (.execution r.name (.timeout c.name (r.timeout.getD e.timeout))), w₁)
              ∧ r.traffic w₁ = [] := by
  have hrun : Leads w.queues (trafficOfAll as w) (outcome (executeAll as) w).2.queues := by
    rw [← world_performAll]
    exact leads_trafficOfAll as has w
  refine ⟨hrun.balance, ?_, ?_, ?_, ?_⟩
  · intro before after hsplit
    rw [hsplit] at hrun
    -- the channels between the two parts are those that the first part leads to
    obtain ⟨q, hbefore, hafter⟩ := hrun.split
    exact ⟨q, hbefore, hafter, fun c n hn hw => hbefore.length_le hn hw⟩
  · intro s w₁ result w₂ hs hchannel
    exact (SendAction.traffic_cases hs).imp_right fun ⟨hresult, h⟩ => ⟨hresult hchannel, h⟩
  · intro r w₁ result w₂ hr hchannel
    exact (ReceiveAction.traffic_cases hr).imp_right fun ⟨hresult, h⟩ => ⟨hresult hchannel, h⟩
  · intro r w₁ e c hd he hc hempty
    exact ReceiveAction.outcome_execute_of_empty hd he hc hempty

/-- A message is sent in a container, and received after it. -/
def thereAndBack : List Action :=
  [.sequence "there" none [.send nudge], .receive { endpoint := .direct narrow }]

/-- A message goes into its channel inside of a container and leaves it outside. -/
theorem messages_conserved_thereAndBack :
    (trafficOfAll thereAndBack (narrowWorld [])).length = 2
      ∧ messagesTaken narrowChannel (trafficOfAll thereAndBack (narrowWorld []))
          ++ (outcome (executeAll thereAndBack) (narrowWorld [])).2.queues.contents narrowChannel
        = messagesPut narrowChannel (trafficOfAll thereAndBack (narrowWorld [])) := by
  have hleaves : ∀ a ∈ thereAndBack, a.Hereditarily LeavesQueues := by
    simp [thereAndBack, Hereditarily, nodes, nodesOfAll, LeavesQueues]
  exact ⟨by rfl, (messages_conserved thereAndBack (narrowWorld []) hleaves).1 narrowChannel⟩

end Action
end Rehearsal

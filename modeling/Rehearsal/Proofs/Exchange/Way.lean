import Rehearsal.Proofs.Check
import Rehearsal.Proofs.Exchange.Record
import Rehearsal.Proofs.Processor.Omission
import Rehearsal.Proofs.Processor.Stations

/-!
# The way of a message out and in

An action that sends lets its message stop at the stations of the way out and then at its own
processors; one that receives lets it stop at those of the way in before it is checked. Apart from
this no part of an action looks at the chain that is built in, so that entries for one direction do
not matter to what goes the other way, if what is not built in looks past them as well. Main
statement: each message passes each station of its way once and in order (`exchange_follows_way`).
-/

namespace Rehearsal

variable {α β : Type} {keep : Processor → Bool}

/-- The world with some entries of the chain left out. -/
def World.keeping (keep : Processor → Bool) (w : World) : World :=
  { w with context := w.context.keeping keep }

/-- If the endpoint is no channel, it does not look at the entries that are left out. -/
def Endpoint.LooksPast (x : Extensions) (keep : Processor → Bool) (e : Endpoint) : Prop :=
  ∀ key, e.transport = .custom key →
    ∀ past m, Rehearsal.LooksPast keep fun c => (x.carrier key).send past c m

namespace World

variable {w w' : World}

/-- Leaving the same entries out again changes nothing. -/
theorem keeping_keeping (keep : Processor → Bool) (w : World) :
    (w.keeping keep).keeping keep = w.keeping keep := by
  simp [keeping, Context.keeping, List.filter_filter]

theorem context_of_keeping (h : w.keeping keep = w'.keeping keep) :
    w.context.keeping keep = w'.context.keeping keep := congrArg (fun w => w.context) h

theorem bindings_of_keeping (h : w.keeping keep = w'.keeping keep) :
    w.context.bindings = w'.context.bindings := congrArg (fun w => w.context.bindings) h

theorem fresh_of_keeping (h : w.keeping keep = w'.keeping keep) : w.fresh = w'.fresh :=
  congrArg (fun w => w.fresh) h

theorem queues_of_keeping (h : w.keeping keep = w'.keeping keep) : w.queues = w'.queues :=
  congrArg (fun w => w.queues) h

theorem extensions_of_keeping (h : w.keeping keep = w'.keeping keep) :
    w.extensions = w'.extensions := congrArg (fun w => w.extensions) h

theorem requests_of_keeping (h : w.keeping keep = w'.keeping keep) : w.requests = w'.requests :=
  congrArg (fun w => w.requests) h

theorem keeping_setOut (h : w.keeping keep = w'.keeping keep) (m : Message) :
    (w.setOut m).keeping keep = (w'.setOut m).keeping keep :=
  congrArg (fun w => w.setOut m) h

end World

/-! ## Runs that do not look at the entries that are left out -/

namespace Run

/-- The name of the action that an error carries is the same for both. -/
theorem respects_within {x : Run α} {w w' : World} (h : RespectsAt (World.keeping keep) x w w')
    (action : String) : RespectsAt (World.keeping keep) (within action x) w w' := by
  obtain ⟨hresult, hview⟩ := h
  rw [RespectsAt, outcome_within, outcome_within]
  rcases hx : outcome x w with ⟨r, t⟩
  rcases hx' : outcome x w' with ⟨r', t'⟩
  rw [hx, hx'] at hresult hview
  obtain rfl : r = r' := hresult
  cases r with
  | error e => exact ⟨rfl, hview⟩
  | ok a => exact ⟨rfl, hview⟩

/-- Both are switched off, or neither is. -/
theorem respects_unlessDisabled {disabled : Run Bool} {body : Run Unit} {w w' : World}
    (h : w.keeping keep = w'.keeping keep) (hd : Leaves id disabled)
    (hr : Respects (World.keeping keep) disabled)
    (hb : RespectsAt (World.keeping keep) body w w') :
    RespectsAt (World.keeping keep) (unlessDisabled disabled body) w w' := by
  refine respectsAt_bind (hr w w' h) fun b t t' ht ht' htt' => ?_
  obtain rfl : t = w := (hd w).view_eq ht
  obtain rfl : t' = w' := (hd w').view_eq ht'
  cases b with
  | true => exact respects_pure _ _ _ h
  | false => exact respectsAt_bind hb fun _ _ _ _ _ h => respects_pure _ _ _ h

/-- What changes nothing and looks at what names refer to. -/
theorem respects_of_bindings {x : Run α} {f : Bindings → Except Error α}
    (hx : ∀ w, outcome x w = (f w.context.bindings, w)) : Respects (World.keeping keep) x := by
  intro w w' h
  rw [RespectsAt, hx, hx, World.bindings_of_keeping h]
  exact ⟨rfl, h⟩

theorem respects_endpoint (r : Reference Endpoint) :
    Respects (World.keeping keep) (endpoint r) :=
  respects_of_bindings (f := fun b => r.get b.endpoint) (outcome_endpoint r)

theorem respects_isDisabled (actor : Option Actor) (r : Reference Endpoint) :
    Respects (World.keeping keep) (isDisabled actor r) := by
  cases actor with
  | some actor => exact respects_pure _
  | none => exact respects_bind (respects_endpoint r) fun e => respects_pure _

theorem outcome_dictionary (r : Reference Dictionary) (w : World) :
    outcome (dictionary (some r)) w = ((r.get w.context.bindings.dictionary).map some, w) := by
  show outcome (do return some (← liftM (r.get w.context.bindings.dictionary))) w = _
  cases r.get w.context.bindings.dictionary <;> rfl

theorem respects_dictionary (r? : Option (Reference Dictionary)) :
    Respects (World.keeping keep) (dictionary r?) := by
  cases r? with
  | none => exact respects_pure none
  | some r =>
    exact respects_of_bindings (f := fun b => (r.get b.dictionary).map some) (outcome_dictionary r)

/-- What is built without a look at these entries takes the same random numbers. -/
theorem respects_draw {f : Context → Draw α} (hf : LooksPast keep f) :
    Respects (World.keeping keep) (draw f) := by
  intro w w' h
  have hd : (f w'.context).run w'.fresh = (f w.context).run w.fresh := by
    rw [hf.eq (World.context_of_keeping h), World.fresh_of_keeping h]
  cases hr : (f w.context).run w.fresh with
  | ok r =>
    rw [RespectsAt, outcome_draw_of_ok hr, outcome_draw_of_ok (hd.trans hr)]
    exact ⟨rfl, congrArg (fun w => { w with fresh := r.2 }) h⟩
  | error e =>
    rw [RespectsAt, outcome_draw_of_error hr, outcome_draw_of_error (hd.trans hr)]
    exact ⟨rfl, h⟩

/-- A message that is sent through steps comes out alike, and leaves alike what it goes with. -/
theorem respectsAt_through {step : Step Unit} {m : Message} {w w' : World}
    (h : w.keeping keep = w'.keeping keep)
    (hs : RespectsAt (Transit.keeping keep) step (w.setOut m) (w'.setOut m)) :
    RespectsAt (World.keeping keep) (through step m) w w' := by
  obtain ⟨hresult, hstate⟩ := hs
  rw [RespectsAt, outcome_through, outcome_through]
  rcases hx : outcome step (w.setOut m) with ⟨r, t⟩
  rcases hx' : outcome step (w'.setOut m) with ⟨r', t'⟩
  rw [hx, hx'] at hresult hstate
  obtain rfl : r = r' := hresult
  have hafter : (w.after t).keeping keep = (w'.after t').keeping keep :=
    calc (w.after t).keeping keep
      _ = (w.keeping keep).after (t.keeping keep) := rfl
      _ = (w'.keeping keep).after (t'.keeping keep) := by rw [h, hstate]
      _ = (w'.after t').keeping keep := rfl
  cases r with
  | error e => exact ⟨rfl, hafter⟩
  | ok a => exact ⟨congrArg Except.ok (Transit.message_of_keeping hstate), hafter⟩

theorem respects_store (key : String) (m : Message) :
    Respects (World.keeping keep) (store key m) := fun _ _ h =>
  ⟨rfl, congrArg (fun w : World => w.storing key m) h⟩

theorem respects_putInto (c : Channel) (m : Message) :
    Respects (World.keeping keep) (putInto c m) := by
  intro w w' h
  rw [RespectsAt, outcome_putInto, outcome_putInto, World.queues_of_keeping h]
  cases w'.queues.put c m with
  | ok queues => exact ⟨rfl, congrArg (fun w => { w with queues }) h⟩
  | error e => exact ⟨rfl, h⟩

/-- The request is written down, whatever the answer is. -/
theorem outcome_ask (key : Nat) (request : Request)
    (answer : Carrier → Requests → Context → Except Error α) (w : World) :
    outcome (ask key request answer) w
      = (answer (w.extensions.carrier key) w.requests w.context,
        { w with requests := w.requests ++ [(key, request)] }) := by
  rw [ask, outcome_bind_of_ok (outcome_get w)]
  exact outcome_liftM _ _

/-- An answer given without a look at these entries is the same for both, and so are the requests.
-/
theorem respectsAt_ask {key : Nat} {request : Request}
    {answer : Carrier → Requests → Context → Except Error α} {w w' : World}
    (h : w.keeping keep = w'.keeping keep)
    (ha : ∀ past, LooksPast keep (answer (w.extensions.carrier key) past)) :
    RespectsAt (World.keeping keep) (ask key request answer) w w' := by
  have hanswer : answer (w.extensions.carrier key) w.requests w.context
      = answer (w'.extensions.carrier key) w'.requests w'.context := by
    rw [(ha w.requests).eq (World.context_of_keeping h), World.extensions_of_keeping h,
      World.requests_of_keeping h]
  rw [RespectsAt, outcome_ask, outcome_ask]
  exact ⟨hanswer, congrArg (fun w => { w with requests := w.requests ++ [(key, request)] }) h⟩

/-- A message is put into the endpoint, or refused by it, alike. -/
theorem respectsAt_put {e : Endpoint} {m : Message} {w w' : World}
    (he : e.LooksPast w.extensions keep) (h : w.keeping keep = w'.keeping keep) :
    RespectsAt (World.keeping keep) (put e m) w w' := by
  cases hc : e.transport with
  | channel id =>
    rw [put, hc]
    exact respects_putInto _ m w w' h
  | custom key =>
    rw [put, hc]
    refine respectsAt_bind (respectsAt_ask h fun past c => rfl) fun _ t t' ht _ htt' => ?_
    -- the endpoint is asked for a sender first, and the request is all that this changes
    rw [outcome_ask] at ht
    have hx : w.extensions = t.extensions := congrArg (fun r => r.2.extensions) ht
    rw [hx] at he
    exact respectsAt_ask htt' fun past => he key hc past m

end Run

/-! ### Building -/

section
variable (c : Context)

theorem Source.resolve_keeping (s : Source) : s.resolve (c.keeping keep) = s.resolve c := by
  cases s <;> rfl

theorem Source.resolveAll_keeping (ss : List Source) :
    resolveAll (c.keeping keep) ss = resolveAll c ss := by
  induction ss with
  | nil => rfl
  | cons s ss ih => rw [resolveAll, resolveAll, resolve_keeping, ih]

/-- Building a message does not look at the chain. -/
theorem Builder.build_keeping (b : Builder) (type : MessageType) :
    b.build (c.keeping keep) type = b.build c type := by
  have huntyped : b.buildUntyped (c.keeping keep) = b.buildUntyped c := by
    cases b with
    | copying m name headers headerData =>
      rw [buildUntyped, buildUntyped, Source.resolveAll_keeping]
      rfl
    | template name payload headers headerData =>
      have hpayload : templatePayload (c.keeping keep) payload = templatePayload c payload := by
        cases payload with
        | none => rfl
        | some s => rw [templatePayload, templatePayload, Source.resolve_keeping]
      rw [buildUntyped, buildUntyped, Source.resolveAll_keeping, hpayload]
      rfl
    | script name source headers headerData =>
      have hpayload : scriptPayload (c.keeping keep) source = scriptPayload c source := by
        rw [scriptPayload, scriptPayload, Source.resolve_keeping]
        rfl
      rw [buildUntyped, buildUntyped, Source.resolveAll_keeping, hpayload]
      rfl
  rw [build, build, huntyped]

end

/-! ## Actions -/

namespace SendAction

/-- What a message does on its way out: it stops at the stations, and then at the action's own
processors. -/
theorem outcome_steps {s : SendAction} {attached : Option Dictionary} {ws : List Station}
    {t : Transit} (h : Station.IsWay t.context.chain .outbound attached ws) :
    outcome (s.steps attached) t = Processor.follow
      (Station.processors t.context.chain attached ws ++ s.processors) t := by
  rw [steps, outcome_bind, Processor.outcome_passes_of_isWay h, Processor.follow_append]
  rcases Processor.follow (Station.processors t.context.chain attached ws) t with ⟨e | ⟨⟩, t'⟩
  · rfl
  · exact Processor.outcome_runAll _ _

/-- A message that was built stops at the stations of the way out, before it is ready. -/
theorem outcome_prepare {s : SendAction} {w w₁ : World} {e : Endpoint} {m : Message}
    {attached : Option Dictionary} {ws : List Station}
    (he : s.endpoint.get w.context.bindings.endpoint = .ok e)
    (hm : outcome (Run.draw fun c => s.builder.build c s.type) w = (.ok m, w₁))
    (hd : outcome (Run.dictionary s.dictionary) w₁ = (.ok attached, w₁))
    (h : Station.IsWay w₁.context.chain .outbound attached ws) :
    outcome s.prepare w = match Processor.follow
        (Station.processors w₁.context.chain attached ws ++ s.processors) (w₁.setOut m) with
      | (.ok (), t) => (.ok (e, t.message), w₁.after t)
      | (.error err, t) => (.error err, w₁.after t) := by
  have hendpoint : outcome (Run.endpoint s.endpoint) w = (.ok e, w) := by
    rw [Run.outcome_endpoint, he]
  rw [prepare, outcome_bind_of_ok hendpoint, outcome_bind_of_ok hm, outcome_bind_of_ok hd,
    outcome_bind, Run.outcome_through, outcome_steps (t := w₁.setOut m) h]
  dsimp only [World.setOut]
  rcases Processor.follow _ _ with ⟨err | ⟨⟩, t⟩ <;> rfl

/-- Whatever has a part in preparing a message does not look at the entries that are left out, as
far as it is not built in: the entries of the chain for messages on their way out, the action's own
processors and the dictionary that is attached. -/
structure LooksPast (keep : Processor → Bool) (s : SendAction) (w : World) : Prop where
  chain : ∀ p ∈ w.context.chain, p.direction.appliesTo .outbound → p.LooksPast w.extensions keep
  own : ∀ p ∈ s.processors, p.LooksPast w.extensions keep
  attached : ∀ r d, s.dictionary = some r → r.get w.context.bindings.dictionary = .ok d →
    d.direction.appliesTo .outbound → d.LooksPast w.extensions keep

variable {s : SendAction} {w w' : World}

/-- What has a part in preparing a message is in the background, which actions leave. -/
theorem LooksPast.of_background (h : s.LooksPast keep w) (hw : w'.background = w.background) :
    s.LooksPast keep w' := by
  have hbindings : w'.context.bindings = w.context.bindings :=
    World.eq_of_background (g := fun w => w.context.bindings) hw
  constructor
  · rw [World.chain_of_background hw, World.extensions_of_background hw]
    exact h.chain
  · rw [World.extensions_of_background hw]
    exact h.own
  · rw [hbindings, World.extensions_of_background hw]
    exact h.attached

/-- The steps on the way out do alike whether these entries are left out or not. -/
theorem respectsAt_steps (hkeep : ∀ p : Processor, p.direction.appliesTo .outbound → keep p)
    (hs : s.LooksPast keep w) {attached : Option Dictionary}
    (hd : outcome (Run.dictionary s.dictionary) w = (.ok attached, w))
    (h : w.keeping keep = w'.keeping keep) (m : Message) :
    RespectsAt (Transit.keeping keep) (s.steps attached) (w.setOut m) (w'.setOut m) := by
  have hattached : ∀ d ∈ attached, d.direction.appliesTo .outbound →
      d.LooksPast w.extensions keep := by
    intro d hmem happlies
    cases hr : s.dictionary with
    | none =>
      rw [hr] at hd
      cases hd
      cases hmem
    | some r =>
      rw [hr, Run.outcome_dictionary] at hd
      obtain ⟨d', hd', rfl⟩ := check_map_eq_ok.1 (congrArg Prod.fst hd)
      cases hmem
      exact hs.attached r d hr hd' happlies
  have hpasses := Processor.respectsAt_passes hkeep hs.chain hattached (World.keeping_setOut h m)
  refine respectsAt_bind hpasses fun _ t t' ht _ htt' =>
    Processor.respectsAt_runAll (fun p hp => ?_) htt'
  rw [Processor.extensions_passes ht]
  exact hs.own p hp

/-- Entries that are left out do not matter to a message that is prepared to be sent, if they are
not for messages on their way out, and nothing looks at them. -/
theorem respectsAt_prepare (hkeep : ∀ p : Processor, p.direction.appliesTo .outbound → keep p)
    (hs : s.LooksPast keep w) (h : w.keeping keep = w'.keeping keep) :
    RespectsAt (World.keeping keep) s.prepare w w' := by
  refine respectsAt_bind (Run.respects_endpoint _ w w' h) fun e w₁ w₁' h₁ _ hw₁ => ?_
  -- looking the endpoint up and building the message leave what the hypothesis is about
  obtain rfl : w₁ = w := (Run.leaves_endpoint _ w).view_eq h₁
  have hbuild : Rehearsal.LooksPast keep fun c => s.builder.build c s.type := fun c =>
    Builder.build_keeping c s.builder s.type
  refine respectsAt_bind (Run.respects_draw hbuild w₁ w₁' hw₁) fun m w₂ w₂' h₂ _ hw₂ => ?_
  have hs₂ := hs.of_background ((Run.leaves_draw _ w₁).view_eq h₂)
  refine respectsAt_bind (Run.respects_dictionary _ w₂ w₂' hw₂) fun attached w₃ w₃' h₃ _ hw₃ => ?_
  obtain rfl : w₃ = w₂ := (Run.leaves_dictionary _ w₂).view_eq h₃
  exact respectsAt_bind (Run.respectsAt_through hw₃ (respectsAt_steps hkeep hs₂ h₃ hw₃ m))
    fun m w₄ w₄' _ _ hw₄ => respects_pure _ w₄ w₄' hw₄

/-- They do not matter to sending either, if the endpoint does not look at them. -/
theorem respectsAt_execute (hkeep : ∀ p : Processor, p.direction.appliesTo .outbound → keep p)
    (hs : s.LooksPast keep w)
    (he : ∀ e, s.endpoint.get w.context.bindings.endpoint = .ok e → e.LooksPast w.extensions keep)
    (h : w.keeping keep = w'.keeping keep) :
    RespectsAt (World.keeping keep) (Action.send s).execute w w' := by
  rw [Action.execute]
  refine Run.respects_within (Run.respects_unlessDisabled h (Action.send s).leaves_disabled
    (Run.respects_isDisabled _ _) ?_) _
  rw [run_eq]
  refine respectsAt_bind (respectsAt_prepare hkeep hs h) fun p w₁ w₁' h₁ _ hw₁ => ?_
  refine respectsAt_bind (Run.respects_store _ _ w₁ w₁' hw₁) fun _ w₂ w₂' h₂ _ hw₂ => ?_
  -- storing the message leaves the extensions
  cases h₂
  refine Run.respectsAt_put ?_ hw₂
  have hx : w₁.extensions = w.extensions := congrArg (·.2.1) ((s.surroundings_prepare w).view_eq h₁)
  show p.1.LooksPast w₁.extensions keep
  rw [hx]
  exact he p.1 (endpoint_of_prepare h₁)

end SendAction

/-- A message that was fetched stops at the stations of the way in, before it is checked. -/
theorem ReceiveAction.outcome_handle {r : ReceiveAction} {w : World} {m : Message}
    {attached : Option Dictionary} {ws : List Station}
    (hd : outcome (Run.dictionary r.dictionary) w = (.ok attached, w))
    (h : Station.IsWay w.context.chain .inbound attached ws) :
    outcome (r.handle m) w = match Processor.follow
        (Station.processors w.context.chain attached ws) (w.setOut m) with
      | (.ok (), t) => outcome (do
          r.check t.message
          Run.through (Processor.runAll r.processors) t.message) (w.after t)
      | (.error err, t) => (.error err, w.after t) := by
  rw [handle, outcome_bind_of_ok hd, outcome_bind, Run.outcome_through,
    Processor.outcome_passes_of_isWay (t := w.setOut m) h]
  dsimp only [World.setOut]
  rcases Processor.follow _ _ with ⟨err | ⟨⟩, t⟩ <;> rfl

/-- The entry of the chain is not only for messages on their way in. -/
def Processor.goesOut (p : Processor) : Bool := p.direction ≠ .inbound

/-- What is called on the way out is not for the way in only. -/
theorem Processor.goesOut_of_appliesTo (p : Processor) (h : p.direction.appliesTo .outbound) :
    p.goesOut := by
  rw [goesOut, decide_eq_true_eq]
  intro hin
  rw [hin] at h
  cases h

/-- Each message passes each station of its way once and in order. There is just one way, which the
passes through dictionaries and processors follow up to the first failure, whatever becomes of the
chain meanwhile; a dictionary that is attached is run once on it or not at all, and a dictionary of
the chain that is not global never is. Actions that send let their messages follow the way out, and
those that receive the way in. What is in the chain for messages on their way in only does not
matter to a message on its way out, if nothing that has a part in sending looks at it. -/
theorem exchange_follows_way :
    (∀ (t : Transit) (towards : Direction) (attached : Option Dictionary), ∃ ws,
      (∀ ws', Station.IsWay t.context.chain towards attached ws' ↔ ws' = ws)
      ∧ outcome (Processor.passes towards attached) t
        = Processor.follow (Station.processors t.context.chain attached ws) t
      ∧ (∀ d, attached = some d → (Station.processors t.context.chain attached ws).countP
          (fun p => p.dictionary?.any (·.id = d.id))
            = if d.direction.appliesTo towards then 1 else 0)
      ∧ ∀ i d, t.context.chain[i]? = some (.dictionary d) → d.isGlobal = false → .entry i ∉ ws)
    ∧ (∀ (s : SendAction) (w w₁ : World) (e : Endpoint) (m : Message)
        (attached : Option Dictionary) (ws : List Station),
      s.endpoint.get w.context.bindings.endpoint = .ok e →
      outcome (Run.draw fun c => s.builder.build c s.type) w = (.ok m, w₁) →
      outcome (Run.dictionary s.dictionary) w₁ = (.ok attached, w₁) →
      Station.IsWay w₁.context.chain .outbound attached ws →
      outcome s.prepare w = match Processor.follow
          (Station.processors w₁.context.chain attached ws ++ s.processors) (w₁.setOut m) with
        | (.ok (), t) => (.ok (e, t.message), w₁.after t)
        | (.error err, t) => (.error err, w₁.after t))
    ∧ (∀ (r : ReceiveAction) (w : World) (m : Message) (attached : Option Dictionary)
        (ws : List Station),
      outcome (Run.dictionary r.dictionary) w = (.ok attached, w) →
      Station.IsWay w.context.chain .inbound attached ws →
      outcome (r.handle m) w = match Processor.follow
          (Station.processors w.context.chain attached ws) (w.setOut m) with
        | (.ok (), t) => outcome (do
            r.check t.message
            Run.through (Processor.runAll r.processors) t.message) (w.after t)
        | (.error err, t) => (.error err, w.after t))
    ∧ ∀ (s : SendAction) (w : World), s.LooksPast Processor.goesOut w →
      (outcome s.prepare (w.keeping Processor.goesOut)).1 = (outcome s.prepare w).1
      ∧ ((∀ e, s.endpoint.get w.context.bindings.endpoint = .ok e →
          e.LooksPast w.extensions Processor.goesOut) →
        (outcome (Action.send s).execute (w.keeping Processor.goesOut)).1
            = (outcome (Action.send s).execute w).1
          ∧ (outcome (Action.send s).execute (w.keeping Processor.goesOut)).2.keeping
              Processor.goesOut
            = (outcome (Action.send s).execute w).2.keeping Processor.goesOut) := by
  refine ⟨fun t towards attached => ?_, fun s w w₁ e m attached ws =>
    SendAction.outcome_prepare, fun r w m attached ws => ReceiveAction.outcome_handle,
    fun s w hs => ?_⟩
  · obtain ⟨ws, h, -⟩ := Station.existsUnique_isWay t.context.chain towards attached
    refine ⟨ws, fun ws' => ?_, Processor.outcome_passes_of_isWay h, ?_, ?_⟩
    · rw [Station.isWay_iff, Station.isWay_iff.1 h]
    · rintro d rfl
      exact h.countP_attached
    · intro i d hi hglobal hmem
      obtain ⟨p, hp, -, hd⟩ := (h.2 _).1 hmem
      rw [hi] at hp
      cases hp
      simpa [hglobal] using (hd d rfl).1
  · have hkeeping := (World.keeping_keeping Processor.goesOut w).symm
    constructor
    · exact (SendAction.respectsAt_prepare Processor.goesOut_of_appliesTo hs hkeeping).1.symm
    · intro he
      obtain ⟨hresult, hworld⟩ :=
        SendAction.respectsAt_execute Processor.goesOut_of_appliesTo hs he hkeeping
      exact ⟨hresult.symm, hworld.symm⟩

/-- A dictionary for both ways. -/
def signposts : Dictionary where
  id := 0
  name := "signposts"
  isGlobal := true
  mappings := .simple [(.literal "left", "right")]

/-- A message to the narrow endpoint with that dictionary attached. -/
def signedNudge : SendAction := { nudge with dictionary := some (.direct signposts) }

/-- A world where the dictionary is in the chain as well, behind an extractor and before one that is
not global, one that is, a processor of its own that empties the chain, and one that is for messages
on their way in. -/
def signedWorld : World :=
  { clearingWorld with
    context := { chain := [.extractHeaders .empty, .dictionary signposts,
      .dictionary { signposts with id := 1, isGlobal := false },
      .dictionary { signposts with id := 2 }, .custom .outbound 0, .failing .inbound "no"] } }

/-- The dictionary that is attached and stands in the chain as well is run once, and the last
station empties the chain. -/
theorem exchange_follows_way_signposts : (∃ m w₁,
    outcome (Run.draw fun c => signedNudge.builder.build c signedNudge.type) signedWorld
      = (.ok m, w₁)
    ∧ Station.IsWay w₁.context.chain .outbound (some signposts)
      [.attached, .entry 3, .entry 0, .entry 4]
    ∧ outcome signedNudge.prepare signedWorld = match Processor.follow
        [.dictionary signposts, .dictionary { signposts with id := 2 }, .extractHeaders .empty,
          .custom .outbound 0] (w₁.setOut m) with
      | (.ok (), t) => (.ok (narrow, t.message), w₁.after t)
      | (.error err, t) => (.error err, w₁.after t))
    ∧ (outcome signedNudge.prepare (signedWorld.keeping Processor.goesOut)).1
      = (outcome signedNudge.prepare signedWorld).1 := by
  have hway : Station.IsWay signedWorld.context.chain .outbound (some signposts)
      [.attached, .entry 3, .entry 0, .entry 4] := Station.isWay_iff.2 (by decide)
  have hpast : signedNudge.LooksPast Processor.goesOut signedWorld := by
    constructor
    · intro p hp _
      simp only [signedWorld, List.mem_cons, List.not_mem_nil, or_false] at hp
      rcases hp with rfl | rfl | rfl | rfl | rfl | rfl
      · exact trivial
      · exact nofun
      · exact nofun
      · exact nofun
      · -- the chain is emptied, whatever is in it
        intro p q hpq
        exact ⟨rfl, congrArg (fun p : Passage => { p with context.chain := [] }) hpq⟩
      · exact trivial
    · exact nofun
    · intro r d hr hd _
      cases hr
      cases hd
      exact nofun
  exact ⟨⟨_, _, rfl, hway, exchange_follows_way.2.1 signedNudge signedWorld _ narrow _
    (some signposts) _ rfl rfl rfl hway⟩,
    (exchange_follows_way.2.2.2 signedNudge signedWorld hpast).1⟩

/-- A world with a processor of its own that writes down how long the chain is, and an entry for
messages on their way in. -/
def countingWorld : World where
  context := { chain := [.custom .outbound 0, .failing .inbound "no"] }
  queues := .empty
  fresh := {}
  extensions := { process := fun _ => modify fun p => { p with
    message := p.message.withHeader "length" (.text (toString p.context.chain.length)) } }

/-- A world where a message waits, and receiving it binds a variable anew. -/
def relayWorld : World where
  context :=
    { vars := .insert .empty "x" (.text "before")
      chain := [.bindVariable .inbound "x" (.text "after")] }
  queues := .set .empty narrowChannel [{ id := Uuid.random 0, timestamp := ⟨0, 0⟩ }]
  fresh := {}

/-- What comes in is received, and a message is sent there with the variable in a header. -/
def relay : List Action :=
  [.receive { endpoint := .direct narrow },
    .send { nudge with
      processors := [.simple .outbound fun m s =>
        .ok (m.withHeader "x" ((s.vars.get? "x").getD .null), s)] }]

/-- The length that is written on a message on its way out. -/
def writtenLength (w : World) : Option Json :=
  (outcome nudge.prepare w).1.toOption.bind (·.2.header? "length")

/-- The variable in the messages that wait where it was sent to. -/
def relayed (w : World) : List (Option String) :=
  ((outcome (Action.executeAll relay) w).2.queues.contents narrowChannel).map fun m =>
    (m.header? "x").map Json.plain

/-- An entry for messages on their way in that is left out can be missed on the way out: by a
processor that looks at the chain, and for what it would have done to the context before. -/
theorem left_out_missed :
    writtenLength countingWorld = some (.text "2")
      ∧ writtenLength (countingWorld.keeping Processor.goesOut) = some (.text "1")
      ∧ relayed relayWorld = [some "after"]
      ∧ relayed (relayWorld.keeping Processor.goesOut) = [some "before"] :=
  ⟨by rfl, by rfl, by decide +kernel, by decide +kernel⟩

end Rehearsal

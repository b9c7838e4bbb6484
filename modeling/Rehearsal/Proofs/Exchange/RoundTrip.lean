import Rehearsal.Proofs.Exchange.Stages
import Rehearsal.Proofs.Message.Rebuild
import Rehearsal.Proofs.Validation.Reflexive

/-!
# What is sent passes its own description

Where no dictionary and no processor is on the way, a message is received as it was built. The
control message that is built from the same description carries the same, so that the message passes
it. Main statement: sending a message and receiving it by one description succeeds, and leaves
nothing behind (`Action.own_description_passes`).
-/

namespace Rehearsal

/-! ## Exchanges that nothing interferes with -/

/-- Without a dictionary none is looked up. -/
theorem Run.outcome_no_dictionary (w : World) :
    outcome (Run.dictionary none) w = (.ok none, w) := rfl

/-- A step that does nothing. -/
theorem Run.outcome_through_of_ok {step : Step Unit} {m : Message} {w : World}
    (h : outcome step (w.setOut m) = (.ok (), w.setOut m)) :
    outcome (Run.through step m) w = (.ok m, w) := by
  rw [Run.outcome_through, h]
  rfl

/-- An empty chain lets a message through with all it goes with. -/
theorem Processor.outcome_passes_nil {t : Transit} (h : t.context.chain = [])
    (towards : Direction) : outcome (passes towards none) t = (.ok (), t) := by
  rw [outcome_passes, h]
  rfl

namespace SendAction

variable {s : SendAction} {w : World} {e : Endpoint} {m : Message} {fresh : Fresh}

/-- Only the random numbers that the builder takes are gone when the message is ready. -/
theorem outcome_prepare_of_direct (hdictionary : s.dictionary = none)
    (hprocessors : s.processors = []) (hchain : w.context.chain = [])
    (he : s.endpoint.get w.context.bindings.endpoint = .ok e)
    (hbuild : (s.builder.build w.context s.type).run w.fresh = .ok (m, fresh)) :
    outcome s.prepare w = (.ok (e, m), { w with fresh }) := by
  have hendpoint : outcome (Run.endpoint s.endpoint) w = (.ok e, w) := by
    rw [Run.outcome_endpoint, he]
  have hdraw : outcome (Run.draw fun c => s.builder.build c s.type) w
      = (.ok m, { w with fresh }) := Run.outcome_draw_of_ok hbuild
  -- with an empty chain and no processors there is nothing to do between building and sending
  have hsteps : outcome (s.steps none) (World.setOut { w with fresh } m)
      = (.ok (), World.setOut { w with fresh } m) := by
    rw [steps, outcome_bind_of_ok (Processor.outcome_passes_nil hchain _), hprocessors]
    rfl
  rw [prepare, outcome_bind_of_ok hendpoint, outcome_bind_of_ok hdraw, hdictionary,
    outcome_bind_of_ok (Run.outcome_no_dictionary _),
    outcome_bind_of_ok (Run.outcome_through_of_ok hsteps), outcome_pure]

/-- The message is put into the channel as it was built. -/
theorem outcome_execute_of_direct (hdictionary : s.dictionary = none)
    (hprocessors : s.processors = []) (hchain : w.context.chain = [])
    (hd : outcome (Run.isDisabled s.actor s.endpoint) w = (.ok false, w))
    (he : s.endpoint.get w.context.bindings.endpoint = .ok e)
    (hbuild : (s.builder.build w.context s.type).run w.fresh = .ok (m, fresh)) {c : Channel}
    (hc : e.channel? = some c) {queues : Queues} (hput : w.queues.put c m = .ok queues) :
    outcome (Action.send s).execute w
      = (.ok .done, { ({ w with fresh } : World).storing (key e m) m with queues }) := by
  have hp := outcome_prepare_of_direct hdictionary hprocessors hchain he hbuild
  rw [Action.execute, Run.outcome_of_enabled hd, outcome_run_of_prepare hp,
    outcome_put_of_prepare hc hp, hput]

/-- A message that is built is left alone in an empty channel with room, and nothing but the record
of the context has changed. -/
theorem done_of_room (hdictionary : s.dictionary = none) (hprocessors : s.processors = [])
    (hchain : w.context.chain = []) (he : s.endpoint.get w.context.bindings.endpoint = .ok e)
    (hon : (s.actor.or e.actor).any (·.disabled) = false) {channel : Channel}
    (hchannel : e.channel? = some channel) (hempty : w.queues.contents channel = [])
    (hroom : w.queues.hasRoomIn channel = true)
    (hbuild : (s.builder.build w.context s.type).run w.fresh = .ok (m, fresh)) :
    ∃ w', outcome (Action.send s).execute w = (.ok .done, w')
      ∧ (∃ messages, w'.context = { w.context with messages })
      ∧ w'.queues.contents channel = [m] := by
  have hd : outcome (Run.isDisabled s.actor s.endpoint) w = (.ok false, w) := by
    rw [Run.outcome_isDisabled_of_endpoint he, hon]
  obtain ⟨queues, hput⟩ : ∃ queues, w.queues.put channel m = .ok queues :=
    ⟨_, Queues.put_eq_ok.2 ⟨hroom, rfl⟩⟩
  refine ⟨_, outcome_execute_of_direct hdictionary hprocessors hchain hd he hbuild hchannel hput,
    ⟨_, rfl⟩, ?_⟩
  show queues.contents channel = [m]
  rw [Queues.contents_put hput, hempty, List.nil_append]

end SendAction

namespace ReceiveAction

variable {r : ReceiveAction} {w : World} {e : Endpoint} {m : Message}

/-- The message is stored as it was taken, if it passes the control message. -/
theorem outcome_execute_of_direct (hdictionary : r.dictionary = none)
    (hprocessors : r.processors = []) (hchain : w.context.chain = [])
    (hd : outcome (Run.isDisabled r.actor r.endpoint) w = (.ok false, w))
    (he : r.endpoint.get w.context.bindings.endpoint = .ok e) {c : Channel}
    (hc : e.channel? = some c) {queues : Queues} (htake : w.queues.take? c = some (m, queues))
    {w' : World}
    (hcheck : outcome (r.check m) { w with queues } = (.ok (), w')) :
    outcome (Action.receive r).execute w = (.ok .done, w'.storing (key e m) m) := by
  have hfetch : outcome r.fetch w = (.ok (e, m), { w with queues }) := by
    rw [outcome_fetch_of_channel he hc, htake]
  have hhandle : outcome (r.handle m) { w with queues } = (.ok m, w') := by
    have hpasses := Processor.outcome_passes_nil (t := World.setOut { w with queues } m) hchain
      .inbound
    rw [handle, hdictionary, outcome_bind_of_ok (Run.outcome_no_dictionary _),
      outcome_bind_of_ok (Run.outcome_through_of_ok hpasses), outcome_bind_of_ok hcheck,
      hprocessors]
    exact Run.outcome_through_of_ok rfl
  rw [Action.execute, Run.outcome_of_enabled hd, run_eq, outcome_bind_of_ok hfetch]
  dsimp only
  rw [outcome_bind_of_ok hhandle]
  rfl

end ReceiveAction

/-! ## One description for both sides -/

/-- What a message is made of is a payload template. -/
structure Description.IsTemplate (d : Description) : Prop where
  explicit : d.explicit = none
  message : d.message = none
  script : d.script = none

namespace Description

variable {d : Description}

/-- The builder of a payload template. -/
def template (d : Description) : Builder := .template d.name d.payload d.headers d.headerData

theorem builder_of_isTemplate (h : d.IsTemplate) : d.builder = .ok d.template := by
  rw [builder, h.explicit, h.message, h.script]
  rfl

/-- There is no control message, or it is built from the template. -/
theorem control_of_isTemplate (h : d.IsTemplate) :
    d.control = .ok none ∨ d.control = .ok (some d.template) := by
  rw [control, builder_of_isTemplate h]
  split
  · exact .inl rfl
  · exact .inr rfl

end Description

/-- A message passes the control message that is built from its own description. -/
theorem ReceiveAction.outcome_check_of_template {r : ReceiveAction} {d : Description} {c : Context}
    (hcontrol : r.control = none ∨ r.control = some d.template)
    (hpure : Builder.TemplateIsPure c d.payload d.headers d.headerData) {m : Message}
    {fresh fresh' : Fresh} (hbuild : (d.template.build c r.type).run fresh = .ok (m, fresh'))
    (hm : m.IsLiteral r.type) {w : World} {messages : Assoc Message}
    (hc : w.context = { c with messages }) :
    ∃ now, outcome (r.check m) w = (.ok (), { w with fresh := now }) := by
  rcases hcontrol with h | h
  · refine ⟨w.fresh, ?_⟩
    rw [check, h]
    rfl
  · -- the control message is built again, and differs in its identifier and its time only, which
    -- are not compared
    obtain ⟨id, timestamp, now, hagain⟩ := Builder.run_build_again hpure hbuild w.fresh
    have hdraw : outcome (Run.draw fun c => d.template.build c r.type) w
        = (.ok { m with id, timestamp }, { w with fresh := now }) := by
      apply Run.outcome_draw_of_ok
      -- what has been recorded in between is nothing that a builder reads
      rw [hc, Description.template, Builder.build_of_messages]
      exact hagain
    have hvalidate : outcome (Run.draw fun c => c.validate r.type m { m with id, timestamp })
        { w with fresh := now } = (.ok (), { w with fresh := now }) :=
      Run.outcome_draw_of_ok (Scope.run_validate_again hm
        (fun v hv => Builder.isNormal_document_of_build hbuild hv) id timestamp)
    refine ⟨now, ?_⟩
    rw [check, h]
    dsimp only
    rw [outcome_bind_of_ok hdraw, hvalidate]

/-- A message that waits alone is received by the template that it was built from. -/
theorem ReceiveAction.done_of_template {r : ReceiveAction} {d : Description} {c : Context}
    {e : Endpoint} {m : Message} {fresh fresh' : Fresh} {w : World} {messages : Assoc Message}
    (hdictionary : r.dictionary = none) (hprocessors : r.processors = [])
    (hcontrol : r.control = none ∨ r.control = some d.template) (hchain : c.chain = [])
    (hc : w.context = { c with messages })
    (he : r.endpoint.get c.bindings.endpoint = .ok e)
    (hon : (r.actor.or e.actor).any (·.disabled) = false) {channel : Channel}
    (hchannel : e.channel? = some channel) (hwaiting : w.queues.contents channel = [m])
    (hpure : Builder.TemplateIsPure c d.payload d.headers d.headerData)
    (hbuild : (d.template.build c r.type).run fresh = .ok (m, fresh')) (hm : m.IsLiteral r.type) :
    ∃ w', outcome (Action.receive r).execute w = (.ok .done, w')
      ∧ w'.queues.contents channel = [] := by
  have hchain : w.context.chain = [] := by rw [hc, hchain]
  have he : r.endpoint.get w.context.bindings.endpoint = .ok e := by rw [hc, he]
  have hd : outcome (Run.isDisabled r.actor r.endpoint) w = (.ok false, w) := by
    rw [Run.outcome_isDisabled_of_endpoint he, hon]
  -- the message is the one that waits, so that it is the one that is taken
  obtain ⟨queues, htake⟩ : ∃ queues, w.queues.take? channel = some (m, queues) := by
    rw [Queues.take?, hwaiting]
    exact ⟨_, rfl⟩
  have hleft : queues.contents channel = [] := by
    have hfront := Queues.contents_of_take? htake
    rw [hwaiting] at hfront
    exact (List.cons.inj hfront).2.symm
  obtain ⟨now, hcheck⟩ :=
    outcome_check_of_template (w := { w with queues }) hcontrol hpure hbuild hm hc
  exact ⟨_, outcome_execute_of_direct hdictionary hprocessors hchain hd he hchannel htake hcheck,
    hleft⟩

namespace Action

/-- What is sent passes its own description. A message that is built from a payload template is sent
to an endpoint where none waits, and received there with the same template as control message. If
the functions that the template calls are pure, its texts are no matcher expressions, and neither
dictionaries nor processors are on the way, both actions are done, and no message is left. -/
theorem own_description_passes (name name' : Option String) (actor actor' : Option Actor)
    (r r' : Reference Endpoint) (type : Option MessageType) (timeout : Option Nat)
    {d : Description} {w : World} {e : Endpoint} {m : Message} {fresh : Fresh}
    (hd : d.IsTemplate) (hchain : w.context.chain = [])
    (he : r.get w.context.bindings.endpoint = .ok e)
    (he' : r'.get w.context.bindings.endpoint = .ok e)
    (hon : (actor.or e.actor).any (·.disabled) = false)
    (hon' : (actor'.or e.actor).any (·.disabled) = false)
    (hempty : w.queues.waiting e = []) (hroom : w.queues.hasRoom e = true)
    (hpure : Builder.TemplateIsPure w.context d.payload d.headers d.headerData)
    (hbuild : (d.template.build w.context (type.getD .xml)).run w.fresh = .ok (m, fresh))
    (hm : m.IsLiteral (type.getD .xml)) :
    ∃ a a' w',
      ({ name, actor, endpoint := some r, message := d, type } : SendOutline).action = .ok a
      ∧ ({ name := name', actor := actor', endpoint := some r', message := d, type, timeout } :
        ReceiveOutline).action = .ok a'
      ∧ outcome (executeAll [a, a']) w = (.ok [.done, .done], w')
      ∧ w'.queues.waiting e = [] := by
  -- the receiver's control message is the template, or there is none and nothing is compared
  obtain ⟨control, hcontrol, htemplate⟩ :
      ∃ control, d.control = .ok control ∧ (control = none ∨ control = some d.template) := by
    rcases d.control_of_isTemplate hd with h | h
    · exact ⟨none, h, .inl rfl⟩
    · exact ⟨some d.template, h, .inr rfl⟩
  let s : SendAction :=
    { name := name.getD "send", actor, endpoint := r, builder := d.template,
      type := type.getD .xml }
  let t : ReceiveAction :=
    { name := name'.getD "receive", actor := actor', endpoint := r', control,
      type := type.getD .xml, timeout }
  -- an endpoint with room has a channel
  obtain ⟨channel, hchannel, hroom⟩ := (Option.any_eq_true _ _).1 hroom
  rw [Queues.waiting_of_channel? hchannel] at hempty
  obtain ⟨w₁, hsend, ⟨messages, hcontext⟩, hwaiting⟩ :=
    SendAction.done_of_room (s := s) rfl rfl hchain he hon hchannel hempty hroom hbuild
  obtain ⟨w', hreceive, hleft⟩ := ReceiveAction.done_of_template (r := t)
    rfl rfl htemplate hchain hcontext he' hon' hchannel hwaiting hpure hbuild hm
  have hrest : outcome (executeAll [.receive t]) w₁ = (.ok [.done], w') := by
    rw [executeAll, outcome_bind_of_ok hreceive, executeAll]
    rfl
  refine ⟨.send s, .receive t, w', ?_, ?_, ?_, ?_⟩
  · rw [SendOutline.action]
    dsimp only
    rw [Description.builder_of_isTemplate hd]
    rfl
  · rw [ReceiveOutline.action]
    dsimp only
    rw [hcontrol]
    rfl
  · rw [executeAll, outcome_bind_of_ok hsend, outcome_bind_of_ok hrest]
    rfl
  · rw [Queues.waiting_of_channel? hchannel, hleft]

/-- A short text, with a header and a block of header data. -/
def notice : Description where
  name := some "notice"
  payload := some (.literal "closed")
  headers := .ofList [("kind", .text "note")]
  headerData := [.literal "draft"]

/-- A mailbox with room for one message. -/
def mailbox : Endpoint where
  name := "mailbox"
  timeout := 1
  capacity := some 1

/-- The texts of the notice hold no template, and stand for themselves. -/
theorem resolve_notice {t : String} (h : t ∈ ["closed", "note", "draft"]) :
    World.initial.context.resolve t = pure t ∧ World.initial.context.IsPureTemplate t := by
  have hplain : ∀ t ∈ ["closed", "note", "draft"],
      Text.contains Template.opening t.toList = false := by decide
  exact ⟨Scope.resolve_of_plain _ (hplain t h), Scope.isPureTemplate_of_plain _ (hplain t h)⟩

/-- The notice takes no random numbers beside those of its identifier. -/
theorem isPure_notice :
    Builder.TemplateIsPure World.initial.context notice.payload notice.headers
      notice.headerData where
  payload := by
    rintro s ⟨⟩
    exact (resolve_notice (by simp)).2
  headers := by
    intro name t ht
    obtain ⟨-, rfl⟩ : name = "kind" ∧ t = "note" := by simpa using List.mem_singleton.1 ht
    exact (resolve_notice (by simp)).2
  headerData := by
    intro s hs
    obtain rfl := List.mem_singleton.1 hs
    exact (resolve_notice (by simp)).2

/-- No text of the notice is a matcher expression, and its header is not a reserved one. -/
theorem isLiteral_notice (id : Uuid) (timestamp : Timestamp) :
    Message.IsLiteral .xml ⟨id, timestamp, notice.name, some .xml, .text "closed", notice.headers,
      ["draft"]⟩ where
  payload := show Matcher.isExpression "closed" = false by decide
  document := nofun
  reserved := by
    intro name hname
    obtain rfl := List.mem_singleton.1 hname
    decide
  headers := by
    intro name text h
    have hnote := Assoc.of_get?_ofList (C := fun v => v = .text "note") (by simp) h
    cases hnote
    decide
  headerData := show ∀ block ∈ ["draft"], Matcher.isExpression block = false by decide

/-- The notice is built as it stands, with an identifier and a time that are new. -/
theorem build_notice : ∃ id now,
    (notice.template.build World.initial.context .xml).run World.initial.fresh = .ok
      (⟨id, now.now, notice.name, some .xml, .text "closed", notice.headers, ["draft"]⟩, now) := by
  obtain ⟨id, now, hid⟩ := Draw.exists_run_uuid World.initial.fresh
  have hsource : ∀ t ∈ ["closed", "note", "draft"],
      Source.resolve World.initial.context (.literal t) = pure t := fun t ht =>
    (resolve_notice ht).1
  have hpayload : Builder.templatePayload World.initial.context notice.payload
      = pure (.text "closed") := by
    rw [notice, Builder.templatePayload, hsource "closed" (by simp)]
    rfl
  have hheaders : World.initial.context.resolveHeaders notice.headers = pure notice.headers := by
    have hentries : notice.headers.entries = [("kind", .text "note")] := rfl
    rw [Scope.resolveHeaders, hentries, Scope.resolveEntries, Scope.resolveValue,
      (resolve_notice (by simp)).1]
    rfl
  have hdata : Source.resolveAll World.initial.context notice.headerData = pure ["draft"] := by
    rw [notice, Source.resolveAll, hsource "draft" (by simp)]
    rfl
  -- payload, identifier, headers and header data are taken one after the other
  refine ⟨id, now, Builder.run_build_template_eq_ok.2
    ⟨_, World.initial.fresh, id, now, notice.headers, now, ["draft"], ?_, hid, ?_, ?_, rfl⟩⟩
  · rw [hpayload]
    rfl
  · rw [hheaders]
    rfl
  · rw [hdata]
    rfl

/-- The notice is sent to the mailbox and received there by its own description. -/
theorem own_description_passes_notice : ∃ a a' w',
    ({ endpoint := some (.direct mailbox), message := notice } : SendOutline).action = .ok a
    ∧ ({ endpoint := some (.direct mailbox), message := notice } : ReceiveOutline).action = .ok a'
    ∧ outcome (executeAll [a, a']) World.initial = (.ok [.done, .done], w')
    ∧ w'.queues.waiting mailbox = [] := by
  obtain ⟨id, now, hbuild⟩ := build_notice
  exact own_description_passes none none none none (.direct mailbox) (.direct mailbox) none none
    ⟨rfl, rfl, rfl⟩ rfl rfl rfl rfl rfl rfl rfl isPure_notice hbuild (isLiteral_notice id now.now)

end Action
end Rehearsal

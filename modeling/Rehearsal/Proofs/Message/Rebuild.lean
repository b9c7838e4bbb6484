import Rehearsal.Message.Builder
import Rehearsal.Proofs.Json.Normal
import Rehearsal.Proofs.Scope.Purity

/-!
# Building a message again

What a payload template makes a message of is pure if the functions that its texts call are. Main
statement: built again, with other random numbers and at another time, the message is the same but
for its identifier and its time (`Builder.run_build_again`).
-/

namespace Rehearsal

open Draw

/-! ## Sources -/

namespace Source

variable {c : Context}

/-- The functions that the template calls are pure; where it is kept as a resource, so are those of
its path. -/
def IsPure (c : Context) : Source → Prop
  | .literal text => c.IsPureTemplate text
  | .resource path charset => c.IsPureTemplate path
    ∧ ∀ text, load c (.resource path charset) = pure text → c.IsPureTemplate text

/-- Loading takes no random numbers beside those of the path. -/
theorem isPure_load {s : Source} (h : s.IsPure c) : (s.load c).IsPure := by
  cases s with
  | literal text => exact isPure_pure text
  | resource path charset =>
    refine isPure_bind (Scope.isPure_resolve h.1) fun p => ?_
    exact isPure_bind (isPure_liftM _) fun r => isPure_liftM _

/-- A source whose texts take no random numbers is resolved without any. -/
theorem isPure_resolve {s : Source} (h : s.IsPure c) : (s.resolve c).IsPure := by
  refine isPure_bind_of (isPure_load h) fun text htext => ?_
  cases s with
  | literal t =>
    have hrun := congrArg (fun d : Draw String => d.run {}) htext
    obtain rfl : t = text := by
      cases hrun
      rfl
    exact Scope.isPure_resolve h
  | resource path charset => exact Scope.isPure_resolve (h.2 text htext)

theorem isPure_resolveAll {ss : List Source} (h : ∀ s ∈ ss, s.IsPure c) :
    (resolveAll c ss).IsPure := by
  induction ss with
  | nil => exact isPure_pure []
  | cons s ss ih =>
    refine isPure_bind (isPure_resolve (h s List.mem_cons_self)) fun t => ?_
    exact isPure_bind (ih fun s hs => h s (List.mem_cons_of_mem _ hs)) fun ts => isPure_pure _

end Source

/-! ## Headers -/

namespace Scope

variable {s : Scope}

theorem isPure_resolveEntries {es : List (String × Json)}
    (h : ∀ name t, (name, .text t) ∈ es → s.IsPureTemplate t) : (s.resolveEntries es).IsPure := by
  induction es with
  | nil => exact isPure_pure []
  | cons e es ih =>
    obtain ⟨name, v⟩ := e
    have hv : (s.resolveValue v).IsPure := by
      cases v with
      | text t =>
        exact isPure_bind (isPure_resolve (h name t List.mem_cons_self)) fun r => isPure_pure _
      | _ => exact isPure_pure _
    refine isPure_bind hv fun v => ?_
    exact isPure_bind (ih fun name t ht => h name t (List.mem_cons_of_mem _ ht)) fun _ =>
      isPure_pure _

/-- Headers whose templates take no random numbers take none. -/
theorem isPure_resolveHeaders {headers : Assoc Json}
    (h : ∀ name t, (name, .text t) ∈ headers.entries → s.IsPureTemplate t) :
    (s.resolveHeaders headers).IsPure :=
  isPure_bind (isPure_resolveEntries h) fun _ => isPure_pure _

end Scope

/-! ## Messages -/

/-- The functions that the texts of a payload template call are pure. -/
structure Builder.TemplateIsPure (c : Context) (payload : Option Source) (headers : Assoc Json)
    (headerData : List Source) : Prop where
  payload : ∀ s, payload = some s → s.IsPure c
  headers : ∀ name t, (name, .text t) ∈ headers.entries → c.IsPureTemplate t
  headerData : ∀ s ∈ headerData, s.IsPure c

namespace Builder

variable {c : Context} {name : Option String} {payload : Option Source} {headers : Assoc Json}
  {headerData : List Source} {type : MessageType} {fresh fresh' : Fresh} {m : Message}

/-- A payload whose template takes no random numbers takes none. -/
theorem isPure_templatePayload (h : ∀ s, payload = some s → s.IsPure c) :
    (templatePayload c payload).IsPure := by
  cases payload with
  | none => exact isPure_pure _
  | some s => exact isPure_bind (Source.isPure_resolve (h s rfl)) fun t => isPure_pure _

/-- A message that a payload template makes consists of the texts of the template. -/
theorem run_build_template_eq_ok :
    (build c (.template name payload headers headerData) type).run fresh = .ok (m, fresh')
      ↔ ∃ p fresh₁ id fresh₂ hs fresh₃ ds,
        (templatePayload c payload).run fresh = .ok (p, fresh₁)
        ∧ uuid.run fresh₁ = .ok (id, fresh₂)
        ∧ (c.resolveHeaders headers).run fresh₂ = .ok (hs, fresh₃)
        ∧ (Source.resolveAll c headerData).run fresh₃ = .ok (ds, fresh')
        ∧ m = ⟨id, fresh₂.now, name, some type, p, hs, ds⟩ := by
  simp only [build, buildUntyped, Message.create, bind_assoc, pure_bind, run_bind_eq_ok]
  constructor
  · rintro ⟨p, fresh₁, hp, id, fresh₂, hid, now, fresh₃, hnow, hs, fresh₄, hhs, ds, fresh₅, hds, h⟩
    cases hnow
    cases h
    exact ⟨p, fresh₁, id, fresh₂, hs, fresh₄, ds, hp, hid, hhs, hds, rfl⟩
  · rintro ⟨p, fresh₁, id, fresh₂, hs, fresh₃, ds, hp, hid, hhs, hds, rfl⟩
    exact ⟨p, fresh₁, hp, id, fresh₂, hid, fresh₂.now, fresh₂, rfl, hs, fresh₃, hhs, ds, fresh',
      hds, rfl⟩

/-- Built again, the message is the same but for its identifier and its time. -/
theorem run_build_again (hpure : TemplateIsPure c payload headers headerData)
    (h : (build c (.template name payload headers headerData) type).run fresh = .ok (m, fresh'))
    (now : Fresh) : ∃ id timestamp now',
      (build c (.template name payload headers headerData) type).run now
        = .ok ({ m with id, timestamp }, now') := by
  obtain ⟨p, fresh₁, id, fresh₂, hs, fresh₃, ds, hp, -, hhs, hds, rfl⟩ :=
    run_build_template_eq_ok.1 h
  have hp' := ((isPure_templatePayload hpure.payload).run_eq_ok hp).2 now
  obtain ⟨id', now', hid'⟩ := exists_run_uuid now
  have hhs' := ((Scope.isPure_resolveHeaders hpure.headers).run_eq_ok hhs).2 now'
  have hds' := ((Source.isPure_resolveAll hpure.headerData).run_eq_ok hds).2 now'
  exact ⟨id', now'.now, now', run_build_template_eq_ok.2
    ⟨p, now, id', now', hs, now', ds, hp', hid', hhs', hds', rfl⟩⟩

/-- A document that such a message holds is in normal form. -/
theorem isNormal_document_of_build
    (h : (build c (.template name payload headers headerData) type).run fresh = .ok (m, fresh'))
    {v : Json} (hv : m.payload.document = .ok v) : v.IsNormal := by
  obtain ⟨p, fresh₁, id, fresh₂, hs, fresh₃, ds, hp, -, -, -, rfl⟩ := run_build_template_eq_ok.1 h
  have htext : ∃ t, p = .ofText t := by
    cases payload with
    | none =>
      cases hp
      exact ⟨"", rfl⟩
    | some s =>
      obtain ⟨t, _, -, ht⟩ := run_bind_eq_ok.1 hp
      cases ht
      exact ⟨t, rfl⟩
  obtain ⟨t, rfl⟩ := htext
  have hparse : ∃ t', Json.parse t' = .ok v := by
    revert hv
    dsimp only
    unfold Payload.ofText
    split
    · exact fun hv => ⟨_, hv⟩
    · exact fun hv => ⟨_, hv⟩
  obtain ⟨t', ht'⟩ := hparse
  exact Json.isNormal_of_parse ht'

/-- The messages that were exchanged before are not looked at. -/
theorem build_of_messages (c : Context) (messages : Assoc Message) :
    build { c with messages } (.template name payload headers headerData) type
      = build c (.template name payload headers headerData) type := by
  have hpayload : templatePayload { c with messages } payload = templatePayload c payload := by
    rcases payload with _ | ⟨_ | _⟩ <;> rfl
  have hsources : Source.resolveAll { c with messages } headerData
      = Source.resolveAll c headerData := by
    induction headerData with
    | nil => rfl
    | cons s ss ih =>
      rw [Source.resolveAll, Source.resolveAll, ih]
      cases s <;> rfl
  rw [build, build, buildUntyped, buildUntyped, hpayload, hsources]

end Builder
end Rehearsal

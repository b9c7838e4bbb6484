import Rehearsal.Message.Builder
import Rehearsal.Proofs.Assoc
import Rehearsal.Proofs.Call.Composition
import Rehearsal.Proofs.Scope.Purity

/-!
# Messages are built in whole

What a builder takes from outside is a list of parts: the texts that its templates stand for, and
once the identifier and the time. `Builder.Built` says where in the message each of them goes. Main
statement: a message is built exactly if every template stands for a text when its turn comes, the
error is that of the first one that does not, and the message holds the texts in their places
(`Builder.build_all_or_nothing`).
-/

namespace Rehearsal

open Draw

/-! ## Draws that follow others -/

namespace Draw

variable {α β γ δ : Type}

/-- A draw does what another one does: it fails with its errors, and takes the same random numbers
to give something that belongs to its result. -/
structure Follows (x : Draw α) (y : Draw β) (R : α → β → Prop) : Prop where
  ok : ∀ {fresh b fresh'}, y.run fresh = .ok (b, fresh') →
    ∃ a, x.run fresh = .ok (a, fresh') ∧ R a b
  error : ∀ {fresh e}, y.run fresh = .error e → x.run fresh = .error e

theorem follows_pure {a : α} {b : β} {R : α → β → Prop} (h : R a b) :
    Follows (pure a) (pure b) R where
  ok hy := by
    cases hy
    exact ⟨a, rfl, h⟩
  error hy := by cases hy

/-- A draw does what it does itself. -/
theorem follows_self (x : Draw α) : Follows x x fun a b => a = b :=
  ⟨fun hy => ⟨_, hy, rfl⟩, fun hy => hy⟩

/-- Two draws in a row follow two others if the first follows the first, and the second the second
for results that belong to each other. -/
theorem follows_bind {x : Draw α} {y : Draw β} {f : α → Draw γ} {g : β → Draw δ}
    {R : α → β → Prop} {S : γ → δ → Prop} (h : Follows x y R)
    (hf : ∀ a b, R a b → Follows (f a) (g b) S) : Follows (x >>= f) (y >>= g) S where
  ok hy := by
    obtain ⟨b, fresh₁, hb, hg⟩ := run_bind_eq_ok.1 hy
    obtain ⟨a, ha, hab⟩ := h.ok hb
    obtain ⟨c, hc, hR⟩ := (hf a b hab).ok hg
    exact ⟨c, run_bind_eq_ok.2 ⟨a, fresh₁, ha, hc⟩, hR⟩
  error hy := by
    rcases run_bind_eq_error.1 hy with hb | ⟨b, fresh₁, hb, hg⟩
    · exact run_bind_of_error (h.error hb)
    · obtain ⟨a, ha, hab⟩ := h.ok hb
      exact run_bind_eq_error.2 (.inr ⟨a, fresh₁, ha, (hf a b hab).error hg⟩)

/-- Both ways: what follows has a result, or an error, exactly if what it follows has. -/
theorem Follows.run_eq_ok {x : Draw α} {y : Draw β} {R : α → β → Prop} (h : Follows x y R)
    {fresh fresh' : Fresh} {a : α} (hx : x.run fresh = .ok (a, fresh')) :
    ∃ b, y.run fresh = .ok (b, fresh') ∧ R a b := by
  cases hy : y.run fresh with
  | ok r =>
    obtain ⟨a', ha', hR⟩ := h.ok hy
    cases ha'.symm.trans hx
    exact ⟨r.1, rfl, hR⟩
  -- what is followed has failed, so that this would have failed too
  | error e => rw [h.error hy] at hx; cases hx

/-- It fails exactly if what it follows fails, and with the same error. -/
theorem Follows.run_eq_error_iff {x : Draw α} {y : Draw β} {R : α → β → Prop}
    (h : Follows x y R) {fresh : Fresh} {e : Error} :
    x.run fresh = .error e ↔ y.run fresh = .error e := by
  refine ⟨fun hx => ?_, h.error⟩
  cases hy : y.run fresh with
  | ok r =>
    obtain ⟨a, ha, -⟩ := h.ok hy
    rw [ha] at hx
    cases hx
  | error e' =>
    cases (h.error hy).symm.trans hx
    rfl

end Draw

/-! ## Sources -/

namespace Source

variable {c : Context}

/-- What can fail when a template is taken from its source and resolved, each step after those
before it: for a resource its path, finding it, its charset, and then its content. -/
inductive Fails (c : Context) : Source → Fresh → Error → Prop
  | text {text : String} {fresh : Fresh} {e : Error}
      (h : (c.resolve text).run fresh = .error e) : Fails c (.literal text) fresh e
  | path {path : String} {charset : Option String} {fresh : Fresh} {e : Error}
      (h : (c.resolve path).run fresh = .error e) : Fails c (.resource path charset) fresh e
  | missing {path p : String} {charset : Option String} {fresh fresh' : Fresh} {e : Error}
      (hp : (c.resolve path).run fresh = .ok (p, fresh')) (h : c.loader.load p = .error e) :
      Fails c (.resource path charset) fresh e
  | undecoded {path p : String} {charset : Option String} {fresh fresh' : Fresh} {r : Resource}
      {e : Error} (hp : (c.resolve path).run fresh = .ok (p, fresh'))
      (hr : c.loader.load p = .ok r) (h : r.text charset = .error e) :
      Fails c (.resource path charset) fresh e
  | content {path p text : String} {charset : Option String} {fresh fresh' : Fresh} {r : Resource}
      {e : Error} (hp : (c.resolve path).run fresh = .ok (p, fresh'))
      (hr : c.loader.load p = .ok r) (ht : r.text charset = .ok text)
      (h : (c.resolve text).run fresh' = .error e) : Fails c (.resource path charset) fresh e

theorem resolve_literal (text : String) : (Source.literal text).resolve c = c.resolve text := rfl

/-- These are all the ways to fail. -/
theorem run_resolve_eq_error_iff {s : Source} {fresh : Fresh} {e : Error} :
    (s.resolve c).run fresh = .error e ↔ s.Fails c fresh e := by
  cases s with
  | literal text =>
    rw [resolve_literal]
    exact ⟨.text, fun | .text h => h⟩
  | resource path charset =>
    simp only [resolve, load, bind_assoc, run_bind_eq_error, run_liftM_eq_error, run_liftM_eq_ok]
    constructor
    · rintro (h | ⟨p, fresh', hp, h | ⟨r, _, ⟨hr, rfl⟩, h | ⟨text, _, ⟨ht, rfl⟩, h⟩⟩⟩)
      · exact .path h
      · exact .missing hp h
      · exact .undecoded hp hr h
      · exact .content hp hr ht h
    · rintro (h | h | ⟨hp, h⟩ | ⟨hp, hr, h⟩ | ⟨hp, hr, ht, h⟩)
      · exact .inl h
      · exact .inr ⟨_, _, hp, .inl h⟩
      · exact .inr ⟨_, _, hp, .inr ⟨_, _, ⟨hr, rfl⟩, .inl h⟩⟩
      · exact .inr ⟨_, _, hp, .inr ⟨_, _, ⟨hr, rfl⟩, .inr ⟨_, _, ⟨ht, rfl⟩, h⟩⟩⟩

/-- Templates are resolved one after the other. -/
theorem resolveAll_eq_mapM (ss : List Source) : resolveAll c ss = ss.mapM (Source.resolve c) := by
  induction ss with
  | nil => rfl
  | cons s ss ih => rw [resolveAll, List.mapM_cons, ih]

end Source

theorem Context.resolveAll_eq_mapM (c : Context) (texts : List String) :
    c.resolveAll texts = (texts.map Source.literal).mapM (Source.resolve c) := by
  rw [Scope.resolveAll_eq_mapM, List.mapM_map]
  rfl

/-! ## Fields -/

namespace Source

/-- The template in a value: a text is one, and nothing else holds any. -/
def ofValue : Json → List Source
  | .text t => [.literal t]
  | _ => []

/-- The templates in the values of headers, in order. -/
def ofEntries (es : List (String × Json)) : List Source := es.flatMap fun e => ofValue e.2

/-- The template in a payload: a text is one. -/
def ofPayload : Payload → List Source
  | .text t => [.literal t]
  | _ => []

end Source

/-- The payload of a text. The empty text is no payload. -/
inductive Payload.IsOfText : String → Payload → Prop
  | empty : IsOfText "" .empty
  | text {t : String} (h : t ≠ "") : IsOfText t (.text t)

theorem Payload.isOfText_ofText (t : String) : IsOfText t (.ofText t) := by
  rw [ofText]
  split
  · next h => exact h ▸ .empty
  · next h => exact .text h

/-- A copied payload with the text of its template; a payload without one is left as it is. -/
inductive Payload.Filled : Payload → List String → Payload → Prop
  | text {t r : String} {p : Payload} (h : IsOfText r p) : Filled (.text t) [r] p
  | other {p : Payload} (h : ∀ t, p ≠ .text t) : Filled p [] p

/-- The payload that a template for it gives, if there is one. -/
inductive Payload.FilledTemplate : Option Source → List String → Payload → Prop
  | none : FilledTemplate none [] .empty
  | some {s : Source} {r : String} {p : Payload} (h : IsOfText r p) : FilledTemplate (some s) [r] p

/-- Headers with texts in the place of the templates in their values. The names are no templates,
and values that are no texts are left as they are. -/
inductive FilledEntries : List (String × Json) → List String → List (String × Json) → Prop
  | nil : FilledEntries [] [] []
  | text {name t r : String} {es es' : List (String × Json)} {ts : List String}
      (h : FilledEntries es ts es') :
      FilledEntries ((name, .text t) :: es) (r :: ts) ((name, .text r) :: es')
  | other {name : String} {v : Json} {es es' : List (String × Json)} {ts : List String}
      (hv : ∀ t, v ≠ .text t) (h : FilledEntries es ts es') :
      FilledEntries ((name, v) :: es) ts ((name, v) :: es')

/-- The names of headers stay. -/
theorem FilledEntries.keys_eq {es es' : List (String × Json)} {ts : List String}
    (h : FilledEntries es ts es') : es'.map (·.1) = es.map (·.1) := by
  induction h with
  | nil => rfl
  | text _ ih => rw [List.map_cons, List.map_cons, ih]
  | other _ _ ih => rw [List.map_cons, List.map_cons, ih]

section Fields
variable (c : Context)

/-- A payload that is copied takes the text of its template, if it holds one. -/
theorem follows_copiedPayload (p : Payload) : Follows (Builder.copiedPayload c p)
    ((Source.ofPayload p).mapM (Source.resolve c)) fun p' ts => p.Filled ts p' := by
  cases p with
  | text t =>
    rw [Source.ofPayload, List.mapM_cons, List.mapM_nil, Source.resolve_literal]
    refine follows_bind (follows_self (c.resolve t)) ?_
    rintro r _ rfl
    exact follows_pure (.text (Payload.isOfText_ofText r))
  | empty => exact follows_pure (.other nofun)
  | json v => exact follows_pure (.other nofun)
  | binary bytes => exact follows_pure (.other nofun)

/-- A payload that a template is given for is the text of this template. -/
theorem follows_templatePayload (payload : Option Source) :
    Follows (Builder.templatePayload c payload) (payload.toList.mapM (Source.resolve c))
      fun p ts => Payload.FilledTemplate payload ts p := by
  cases payload with
  | none => exact follows_pure .none
  | some s =>
    rw [Option.toList_some, List.mapM_cons, List.mapM_nil]
    refine follows_bind (follows_self (s.resolve c)) ?_
    rintro r _ rfl
    exact follows_pure (.some (Payload.isOfText_ofText r))

/-- Headers take the texts of the templates in their values, in order. -/
theorem follows_resolveEntries (es : List (String × Json)) : Follows (c.resolveEntries es)
    ((Source.ofEntries es).mapM (Source.resolve c)) fun es' ts => FilledEntries es ts es' := by
  induction es with
  | nil => exact follows_pure .nil
  | cons e es ih =>
    obtain ⟨name, v⟩ := e
    by_cases hv : ∃ t, v = .text t
    · obtain ⟨t, rfl⟩ := hv
      have hcons : Source.ofEntries ((name, .text t) :: es) = .literal t :: Source.ofEntries es :=
        rfl
      rw [hcons, List.mapM_cons, Source.resolve_literal, Scope.resolveEntries, Scope.resolveValue,
        bind_assoc]
      refine follows_bind (follows_self (c.resolve t)) ?_
      rintro r _ rfl
      rw [pure_bind]
      exact follows_bind ih fun es' ts h => follows_pure (.text h)
    · -- the value is kept, and no text is taken for it
      have hv : ∀ t, v ≠ .text t := fun t ht => hv ⟨t, ht⟩
      have hvalue : c.resolveValue v = pure v := by
        cases v with
        | text t => exact absurd rfl (hv t)
        | _ => rfl
      have hcons : Source.ofEntries ((name, v) :: es) = Source.ofEntries es := by
        cases v with
        | text t => exact absurd rfl (hv t)
        | _ => rfl
      rw [hcons, Scope.resolveEntries, hvalue, pure_bind, ← bind_pure (List.mapM _ _)]
      exact follows_bind ih fun es' ts h => follows_pure (.other hv h)

/-- As the names are the same, no header is lost. -/
theorem follows_resolveHeaders (headers : Assoc Json) : Follows (c.resolveHeaders headers)
    ((Source.ofEntries headers.entries).mapM (Source.resolve c))
    fun headers' ts => FilledEntries headers.entries ts headers'.entries := by
  rw [Scope.resolveHeaders, ← bind_pure (List.mapM _ _)]
  refine follows_bind (follows_resolveEntries c headers.entries) fun es ts h => follows_pure ?_
  have hnodup : (es.map (·.1)).Nodup := h.keys_eq ▸ headers.nodup
  rwa [Assoc.ofList, Assoc.entries_insertAll (m := .empty) (by simpa [Assoc.empty] using hnodup)]

/-- Blocks of header data are the texts of their templates. -/
theorem follows_texts (ss : List Source) : Follows (ss.mapM (Source.resolve c))
    (ss.mapM (Source.resolve c)) fun ds ts => ds = ts ∧ ds.length = ss.length :=
  ⟨fun h => ⟨_, h, rfl, length_of_run_mapM h⟩, fun h => h⟩

end Fields

/-! ## Parts -/

namespace Builder

/-- What building takes from outside. -/
inductive Part
  | identity
  | template (s : Source)

/-- What is taken for a part. -/
inductive Drawn
  | identity (id : Uuid) (now : Timestamp)
  | text (t : String)

/-- The identifier and the time are taken together, and a template gives its text. -/
def Part.draw (c : Context) : Part → Draw Drawn
  | .identity => do
    let id ← Draw.uuid
    return .identity id (← Draw.now)
  | .template s => return .text (← s.resolve c)

/-- The parts of a message that is copied or made of a template, in order. -/
def parts? : Builder → Option (List Part)
  | .copying m _ headers headerData => some <| .identity ::
    (Source.ofPayload m.payload ++ Source.ofEntries m.headers.entries
      ++ Source.ofEntries headers.entries ++ m.headerData.map Source.literal
      ++ headerData).map .template
  | .template _ payload headers headerData => some <| payload.toList.map .template ++ .identity ::
    (Source.ofEntries headers.entries ++ headerData).map .template
  | .script .. => none

/-- The message that is built of what was drawn. -/
inductive Built (type : MessageType) : Builder → List Drawn → Message → Prop
  | copying {m : Message} {name : Option String} {headers headers' : Assoc Json}
      {headerData : List Source} {id : Uuid} {now : Timestamp} {payload' : Payload}
      {payload own extra ownData extraData : List String} {es es' : List (String × Json)}
      (hpayload : m.payload.Filled payload payload')
      (hown : FilledEntries m.headers.entries own es)
      (hextra : FilledEntries headers.entries extra es')
      (hheaders : headers'.entries = Assoc.Entries.overlay es es')
      (hownData : ownData.length = m.headerData.length)
      (hextraData : extraData.length = headerData.length) :
      Built type (.copying m name headers headerData)
        (.identity id now :: (payload ++ own ++ extra ++ ownData ++ extraData).map .text)
        { id, timestamp := now, name := name.or m.name, type := some (m.type.getD type),
          payload := payload', headers := headers', headerData := ownData ++ extraData }
  | template {name : Option String} {payload : Option Source} {headers headers' : Assoc Json}
      {headerData : List Source} {id : Uuid} {now : Timestamp} {payload' : Payload}
      {texts es ds : List String}
      (hpayload : Payload.FilledTemplate payload texts payload')
      (hheaders : FilledEntries headers.entries es headers'.entries)
      (hdata : ds.length = headerData.length) :
      Built type (.template name payload headers headerData)
        (texts.map .text ++ .identity id now :: (es ++ ds).map .text)
        { id, timestamp := now, name, type := some type, payload := payload', headers := headers',
          headerData := ds }

/-- Parts that are templates give their texts. -/
theorem mapM_draw_templates (c : Context) (ss : List Source) :
    (ss.map Part.template).mapM (Part.draw c) = (do
      let ts ← ss.mapM (Source.resolve c)
      return ts.map Drawn.text) := by
  induction ss with
  | nil => rfl
  | cons s ss ih =>
    rw [List.map_cons, List.mapM_cons, List.mapM_cons, ih, Part.draw]
    simp only [bind_assoc, pure_bind, List.map_cons]

/-- A message is built of what is drawn for its parts, and of nothing else. -/
theorem follows_build (c : Context) (type : MessageType) {b : Builder} {parts : List Part}
    (h : b.parts? = some parts) :
    Follows (b.build c type) (parts.mapM (Part.draw c)) fun m ds => Built type b ds m := by
  cases b with
  | copying m name headers headerData =>
    cases h
    rw [List.mapM_cons, mapM_draw_templates]
    simp only [List.mapM_append, build, buildUntyped, Message.copy, Part.draw, bind_assoc,
      pure_bind, Context.resolveAll_eq_mapM, Source.resolveAll_eq_mapM]
    refine follows_bind (follows_self _) ?_
    rintro id _ rfl
    refine follows_bind (follows_self _) ?_
    rintro now _ rfl
    refine follows_bind (follows_copiedPayload c m.payload) fun payload ts hpayload => ?_
    refine follows_bind (follows_resolveHeaders c m.headers) fun own ts₁ hown => ?_
    refine follows_bind (follows_resolveHeaders c headers) fun extra ts₂ hextra => ?_
    refine follows_bind (follows_texts c _) ?_
    rintro ownData _ ⟨rfl, hownData⟩
    refine follows_bind (follows_texts c _) ?_
    rintro extraData _ ⟨rfl, hextraData⟩
    rw [List.length_map] at hownData
    exact follows_pure (.copying hpayload hown hextra
      (Assoc.entries_insertAll_eq_overlay own extra.nodup) hownData hextraData)
  | template name payload headers headerData =>
    cases h
    rw [List.mapM_append, List.mapM_cons, mapM_draw_templates, mapM_draw_templates]
    simp only [List.mapM_append, build, buildUntyped, Message.create, Part.draw, bind_assoc,
      pure_bind, Source.resolveAll_eq_mapM]
    refine follows_bind (follows_templatePayload c payload) fun payload' ts hpayload => ?_
    refine follows_bind (follows_self _) ?_
    rintro id _ rfl
    refine follows_bind (follows_self _) ?_
    rintro now _ rfl
    refine follows_bind (follows_resolveHeaders c headers) fun headers' ts₁ hheaders => ?_
    refine follows_bind (follows_texts c _) ?_
    rintro data _ ⟨rfl, hdata⟩
    exact follows_pure (.template hpayload hheaders hdata)
  | script => cases h

/-- Only templates fail. -/
theorem run_draw_eq_error_iff {c : Context} {p : Part} {fresh : Fresh} {e : Error} :
    (p.draw c).run fresh = .error e ↔ ∃ s, p = .template s ∧ s.Fails c fresh e := by
  cases p with
  | identity =>
    constructor
    · intro h
      cases h
    · rintro ⟨s, hs, -⟩
      cases hs
  | template s =>
    rw [Part.draw, run_bind_eq_error, Source.run_resolve_eq_error_iff]
    simp only [run_pure, reduceCtorEq, and_false, exists_false, or_false, Part.template.injEq,
      exists_eq_left']

/-- A message is built exactly if each of its templates, when its turn comes, stands for a text; the
error is that of the first template that does not; and a message that is built holds the texts of
all its templates, each in its place. -/
theorem build_all_or_nothing (c : Context) (type : MessageType) {b : Builder} {parts : List Part}
    (h : b.parts? = some parts) (fresh : Fresh) :
    ((∃ m fresh', (b.build c type).run fresh = .ok (m, fresh'))
        ↔ ∀ before s after ds fresh₁, parts = before ++ .template s :: after
          → (before.mapM (Part.draw c)).run fresh = .ok (ds, fresh₁)
          → ∃ t fresh₂, (s.resolve c).run fresh₁ = .ok (t, fresh₂))
      ∧ (∀ e, (b.build c type).run fresh = .error e
        ↔ ∃ before s after ds fresh₁, parts = before ++ .template s :: after
          ∧ (before.mapM (Part.draw c)).run fresh = .ok (ds, fresh₁) ∧ s.Fails c fresh₁ e)
      ∧ ∀ m fresh', (b.build c type).run fresh = .ok (m, fresh')
        → ∃ ds, (parts.mapM (Part.draw c)).run fresh = .ok (ds, fresh') ∧ Built type b ds m := by
  have hfollows := follows_build c type h
  have herror : ∀ e, (b.build c type).run fresh = .error e
      ↔ ∃ before s after ds fresh₁, parts = before ++ .template s :: after
        ∧ (before.mapM (Part.draw c)).run fresh = .ok (ds, fresh₁) ∧ s.Fails c fresh₁ e := by
    intro e
    rw [hfollows.run_eq_error_iff, run_mapM_eq_error]
    simp only [run_draw_eq_error_iff]
    constructor
    · rintro ⟨before, _, after, ds, fresh₁, hparts, hds, s, rfl, hs⟩
      exact ⟨before, s, after, ds, fresh₁, hparts, hds, hs⟩
    · rintro ⟨before, s, after, ds, fresh₁, hparts, hds, hs⟩
      exact ⟨before, _, after, ds, fresh₁, hparts, hds, s, rfl, hs⟩
  refine ⟨?_, herror, fun m fresh' hm => hfollows.run_eq_ok hm⟩
  constructor
  · rintro ⟨m, fresh', hm⟩ before s after ds fresh₁ hparts hds
    cases hs : (s.resolve c).run fresh₁ with
    | ok r => exact ⟨r.1, r.2, rfl⟩
    | error e =>
      rw [(herror e).2 ⟨before, s, after, ds, fresh₁, hparts, hds,
        Source.run_resolve_eq_error_iff.1 hs⟩] at hm
      cases hm
  · -- an error would be that of a template, which the hypothesis gives a text
    intro hall
    cases hm : (b.build c type).run fresh with
    | ok r => exact ⟨r.1, r.2, rfl⟩
    | error e =>
      obtain ⟨before, s, after, ds, fresh₁, hparts, hds, hs⟩ := (herror e).1 hm
      obtain ⟨t, fresh₂, ht⟩ := hall before s after ds fresh₁ hparts hds
      rw [Source.run_resolve_eq_error_iff.2 hs] at ht
      cases ht

/-- A message whose own header is a template, copied with another value for this header. -/
def givingWay : Builder :=
  .copying
    { id := ⟨0, by decide⟩, timestamp := ⟨0, 0⟩, headers := .ofList [("h", .text "$\x7bown\x7d")] }
    none (.ofList [("h", .text "$\x7bextra\x7d")]) []

/-- The own value of a header is resolved first, also where it gives way. -/
theorem build_givingWay : givingWay.parts? = some [.identity,
      .template (.literal "$\x7bown\x7d"), .template (.literal "$\x7bextra\x7d")]
    ∧ (givingWay.build {} .xml).run {} = .error (.unknownVariable "own") := by
  have hparts : givingWay.parts? = some [.identity,
      .template (.literal "$\x7bown\x7d"), .template (.literal "$\x7bextra\x7d")] := rfl
  refine ⟨hparts, ?_⟩
  refine ((build_all_or_nothing {} .xml hparts {}).2.1 _).2 ⟨[.identity], _, _, _, _, rfl, rfl, ?_⟩
  have hown : CallTree.IsVariable "own".toList := ⟨by decide, by simp [Call.quote]⟩
  have hlookup := Scope.resolveChars_lookup (s := ({} : Context).toScope) hown
  have htemplate : "$\x7bown\x7d".toList = (Template.Segment.placeholder "own".toList).write := by
    decide
  refine .text ?_
  rw [Scope.resolve, htemplate, hlookup]
  rfl

end Builder
end Rehearsal

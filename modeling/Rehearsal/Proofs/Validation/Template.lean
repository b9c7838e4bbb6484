import Rehearsal.Matcher.Standard
import Rehearsal.Message.Builder
import Rehearsal.Proofs.Call.Composition
import Rehearsal.Proofs.Matcher.Arguments
import Rehearsal.Proofs.Validation.Conformance

/-!
# Matcher expressions in payload templates

A matcher expression may judge a payload directly, or stand in the template of a control message. In
a template the text of its whole list of arguments is put in first, and is then split into arguments
that are templates again: a text that is put in is read a second time. Main statement: what either
way does, and that both give the same verdict where every argument keeps its text
(`validateTemplate_verdict`). They do not where a variable holds a placeholder
(`validateTemplate_ne_judge`).
-/

namespace Rehearsal

open Template

namespace Draw

/-- The draw gives a value. -/
def Succeeds {α : Type} (d : Draw α) (fresh : Fresh) : Prop := ∃ r, d.run fresh = .ok r

theorem succeeds_unit {d : Draw Unit} {fresh : Fresh} :
    d.Succeeds fresh ↔ ∃ fresh', d.run fresh = .ok ((), fresh') :=
  ⟨fun ⟨⟨⟨⟩, fresh'⟩, h⟩ => ⟨fresh', h⟩, fun ⟨fresh', h⟩ => ⟨((), fresh'), h⟩⟩

/-- A draw gives one value. -/
theorem eq_of_run_eq_ok {α : Type} {d : Draw α} {a b : α} {fresh fresh₁ fresh₂ : Fresh}
    (ha : d.run fresh = .ok (a, fresh₁)) (hb : d.run fresh = .ok (b, fresh₂)) : a = b := by
  rw [ha] at hb
  cases hb
  rfl

end Draw

namespace Scope

variable {s : Scope} {fresh fresh' : Fresh}

/-- The matcher that a call names accepts the value of a field, with the texts that the arguments
of the call stand for. -/
def AcceptsCall (s : Scope) (field value : String) (call : Call) (fresh fresh' : Fresh) : Prop :=
  ∃ matcher control, s.matchers.lookup? call.qualifier call.name = some matcher
    ∧ (s.resolveAll (call.args.map String.ofList)).run fresh = .ok (control, fresh')
    ∧ matcher field value control = .ok ()

/-- A matcher expression is judged by the call that it is read as. -/
theorem run_judge_eq_ok {field value e : String} {call : Call} (h : Matcher.parse e = .ok call) :
    (s.judge field value e).run fresh = .ok ((), fresh')
      ↔ s.AcceptsCall field value call fresh fresh' := by
  rw [judge_eq_ok_iff]
  constructor
  · rintro ⟨call', matcher, control, hcall, haccepts⟩
    obtain rfl : call = call' := by simpa [h] using hcall
    exact ⟨matcher, control, haccepts⟩
  · rintro ⟨matcher, control, haccepts⟩
    exact ⟨call, matcher, control, h, haccepts⟩

/-- The texts of several templates are the texts of each. -/
theorem resolveAll_ofList (args : List (List Char)) : s.resolveAll (args.map String.ofList) = (do
    let texts ← args.mapM s.resolveChars
    return texts.map String.ofList) := by
  induction args with
  | nil => rfl
  | cons a as ih => simp [resolveAll, resolve, ih, List.mapM_cons]

/-- Arguments are resolved one after the other, as texts or as lists of characters. -/
theorem run_resolveAll_ofList {args : List (List Char)} {control : List String} :
    (s.resolveAll (args.map String.ofList)).run fresh = .ok (control, fresh')
      ↔ ∃ texts, (args.mapM s.resolveChars).run fresh = .ok (texts, fresh')
        ∧ control = texts.map String.ofList := by
  rw [resolveAll_ofList, Draw.run_bind_eq_ok]
  constructor
  · rintro ⟨texts, fresh₁, ht, he⟩
    cases he
    exact ⟨texts, ht, rfl⟩
  · rintro ⟨texts, ht, rfl⟩
    exact ⟨texts, fresh', ht, rfl⟩

theorem run_resolve_eq_ok {template t : String} :
    (s.resolve template).run fresh = .ok (t, fresh')
      ↔ ∃ cs, (s.resolveChars template.toList).run fresh = .ok (cs, fresh')
        ∧ t = String.ofList cs := by
  rw [resolve, Draw.run_bind_eq_ok]
  constructor
  · rintro ⟨cs, fresh₁, hcs, he⟩
    cases he
    exact ⟨cs, hcs, rfl⟩
  · rintro ⟨cs, hcs, rfl⟩
    exact ⟨cs, fresh', hcs, rfl⟩

/-! ## The text of a matcher expression -/

/-- The text of a matcher expression is an expression of the same matcher, with the text of the list
of arguments as its list. -/
theorem exists_list_of_resolve {e t : String} {call : Call} (h : Matcher.parse e = .ok call)
    (ht : (s.resolve e).run fresh = .ok (t, fresh')) :
    ∃ list, (s.resolveChars (Matcher.argumentList e.toList)).run fresh = .ok (list, fresh')
      ∧ Matcher.parse t = .ok { call with args := Call.splitArguments list } := by
  obtain ⟨cs, hcs, rfl⟩ := run_resolve_eq_ok.1 ht
  rcases Matcher.exists_frame_of_parse h with ⟨before, after, hframe, he⟩ | ⟨hinert, hlist, hargs⟩
  · rw [he, run_resolveChars_frame hframe.isInert_before hframe.isInert_after] at hcs
    obtain ⟨list, hl, rfl⟩ := hcs
    exact ⟨list, hl, hframe.parse_eq list⟩
  · rw [resolveChars_of_inert hinert] at hcs
    cases hcs
    refine ⟨[], by rw [hlist, resolveChars_of_inert isInert_nil]; rfl, ?_⟩
    rw [String.ofList_toList, h]
    exact congrArg (fun args => Except.ok { call with args }) hargs

theorem exists_resolve_of_list {e : String} {call : Call} {list : List Char}
    (h : Matcher.parse e = .ok call)
    (hl : (s.resolveChars (Matcher.argumentList e.toList)).run fresh = .ok (list, fresh')) :
    ∃ t, (s.resolve e).run fresh = .ok (t, fresh') := by
  rcases Matcher.exists_frame_of_parse h with ⟨before, after, hframe, he⟩ | ⟨hinert, hlist, -⟩
  · refine ⟨_, run_resolve_eq_ok.2 ⟨before ++ list ++ after, ?_, rfl⟩⟩
    rw [he]
    exact (run_resolveChars_frame hframe.isInert_before hframe.isInert_after).2 ⟨list, hl, rfl⟩
  · rw [hlist, resolveChars_of_inert isInert_nil] at hl
    cases hl
    exact ⟨_, run_resolve_eq_ok.2 ⟨_, by rw [resolveChars_of_inert hinert]; rfl, rfl⟩⟩

end Scope

namespace Context

/-- Hold a message against the control message that is made from a payload template. -/
def validateTemplate (c : Context) (type : MessageType) (received : Message) (template : String) :
    Draw Unit := do
  let control ← Builder.buildUntyped c (.template none (some (.literal template)) .empty [])
  c.validate type received control

variable {c : Context} {type : MessageType} {received : Message} {fresh fresh' : Fresh}

/-- A control message that has nothing but a matcher expression judges the payload by it. -/
theorem validate_of_expression {control : Message} {e : String} (he : Matcher.isExpression e = true)
    (hp : control.payload = .ofText e) (hh : control.headers = .empty)
    (hd : control.headerData = []) :
    c.validate type received control = c.judge "payload" received.payload.plain e := by
  have hne : e ≠ "" := by
    rintro rfl
    cases he
  have hpayload : control.payload = .text e := by rw [hp, Payload.ofText, if_neg hne]
  have hcheck : c.checkPayload type received control
      = c.judge "payload" received.payload.plain e := by
    simp [Scope.checkPayload, hpayload, Payload.isEmpty, Payload.plain, hne, he]
  simp [Scope.validate, hcheck, hh, hd, Assoc.empty, Scope.checkHeaders, Scope.checkHeaderData,
    Scope.checkBlocks]

/-- A message with a payload template only is made of the text of the template, with an identifier
of its own. -/
theorem buildUntyped_payload (c : Context) (template : String) :
    Builder.buildUntyped c (.template none (some (.literal template)) .empty []) = (do
      let t ← c.resolve template
      let id ← Draw.uuid
      let timestamp ← Draw.now
      return { id, timestamp, payload := .ofText t }) := by
  have hheaders : c.resolveHeaders .empty = pure .empty := rfl
  simp [Builder.buildUntyped, Builder.templatePayload, Source.resolve, Source.load, Message.create,
    hheaders, Source.resolveAll]

/-- The verdict of a control message that is made from a matcher expression is that of the text of
the expression. -/
theorem run_validateTemplate {e : String} {call : Call} (h : Matcher.parse e = .ok call) :
    (c.validateTemplate type received e).run fresh = .ok ((), fresh')
      ↔ ∃ t fresh₁ id fresh₂, (c.resolve e).run fresh = .ok (t, fresh₁)
        ∧ Draw.uuid.run fresh₁ = .ok (id, fresh₂)
        ∧ (c.judge "payload" received.payload.plain t).run fresh₂ = .ok ((), fresh') := by
  have hvalidate : ∀ {t fresh₁} id timestamp, (c.resolve e).run fresh = .ok (t, fresh₁) →
      c.validate type received { id, timestamp, payload := .ofText t }
        = c.judge "payload" received.payload.plain t := fun id timestamp ht => by
    obtain ⟨list, -, hparse⟩ := Scope.exists_list_of_resolve h ht
    exact validate_of_expression (Matcher.isExpression_of_parse hparse) rfl rfl rfl
  rw [validateTemplate, buildUntyped_payload]
  simp only [bind_assoc, pure_bind, Draw.run_bind_eq_ok]
  constructor
  · rintro ⟨t, fresh₁, ht, id, fresh₂, hid, timestamp, fresh₃, hnow, hv⟩
    cases hnow
    rw [hvalidate id _ ht] at hv
    exact ⟨t, fresh₁, id, fresh₂, ht, hid, hv⟩
  · rintro ⟨t, fresh₁, id, fresh₂, ht, hid, hv⟩
    refine ⟨t, fresh₁, ht, id, fresh₂, hid, fresh₂.now, fresh₂, rfl, ?_⟩
    rw [hvalidate id _ ht]
    exact hv

/-- The text of the list of arguments is put in first, and then split into arguments whose texts are
put in again. -/
theorem run_validateTemplate_eq_ok {e : String} {call : Call} (h : Matcher.parse e = .ok call) :
    (c.validateTemplate type received e).run fresh = .ok ((), fresh')
      ↔ ∃ list fresh₁ id fresh₂,
        (c.resolveChars (Matcher.argumentList e.toList)).run fresh = .ok (list, fresh₁)
        ∧ Draw.uuid.run fresh₁ = .ok (id, fresh₂)
        ∧ c.AcceptsCall "payload" received.payload.plain
          { call with args := Call.splitArguments list } fresh₂ fresh' := by
  rw [run_validateTemplate h]
  constructor
  · rintro ⟨t, fresh₁, id, fresh₂, ht, hid, hv⟩
    obtain ⟨list, hl, hparse⟩ := Scope.exists_list_of_resolve h ht
    exact ⟨list, fresh₁, id, fresh₂, hl, hid, (Scope.run_judge_eq_ok hparse).1 hv⟩
  · rintro ⟨list, fresh₁, id, fresh₂, hl, hid, hv⟩
    obtain ⟨t, ht⟩ := Scope.exists_resolve_of_list h hl
    obtain ⟨list', hl', hparse⟩ := Scope.exists_list_of_resolve h ht
    obtain rfl := Draw.eq_of_run_eq_ok hl hl'
    exact ⟨t, fresh₁, id, fresh₂, ht, hid, (Scope.run_judge_eq_ok hparse).2 hv⟩

/-! ## Agreement -/

/-- Every argument of a matcher expression closes its placeholders, and keeps the text that it
stands for when the text is put into the list. -/
structure KeepsArguments (c : Context) (e : String) (fresh : Fresh) : Prop where
  closed : ∀ p ∈ Call.pieces false 0 (Matcher.argumentList e.toList), (split? p).isSome
  kept : ∀ texts fresh', ((Call.splitArguments (Matcher.argumentList e.toList)).mapM
      c.resolveChars).run fresh = .ok (texts, fresh') →
    ∀ x ∈ (Call.pieces false 0 (Matcher.argumentList e.toList)).zip texts, Matcher.IsKept x.1 x.2

/-- Texts without placeholders are left as they are when they are resolved again. -/
theorem resolveAll_of_plain {texts : List (List Char)}
    (h : ∀ t ∈ texts, Text.contains opening t = false) :
    c.resolveAll (texts.map String.ofList) = pure (texts.map String.ofList) := by
  refine Scope.resolveAll_of_plain _ fun t ht => ?_
  obtain ⟨cs, hcs, rfl⟩ := List.mem_map.1 ht
  rw [String.toList_ofList]
  exact h cs hcs

/-- Where the arguments are kept, the matcher is given the same texts on both ways. -/
theorem succeeds_validateTemplate_iff {e : String} {call : Call} (h : Matcher.parse e = .ok call)
    (hk : c.KeepsArguments e fresh) : (c.validateTemplate type received e).Succeeds fresh
      ↔ (c.judge "payload" received.payload.plain e).Succeeds fresh := by
  have hargs := Matcher.args_eq_of_parse h
  simp only [Draw.succeeds_unit, run_validateTemplate_eq_ok h, Scope.run_judge_eq_ok h]
  constructor
  · rintro ⟨fresh', list, fresh₁, id, fresh₂, hl, -, matcher, control, hm, hcontrol, haccepts⟩
    obtain ⟨texts, ht⟩ := Matcher.exists_texts_of_list hk.closed hl
    obtain ⟨list', hl', rfl, hplain⟩ :=
      Matcher.splitArguments_of_kept hk.closed (hk.kept texts fresh₁ ht) ht
    obtain rfl := Draw.eq_of_run_eq_ok hl hl'
    -- the texts of the arguments stand for themselves
    rw [resolveAll_of_plain hplain] at hcontrol
    cases hcontrol
    refine ⟨fresh₁, matcher, _, hm, ?_, haccepts⟩
    rw [hargs]
    exact Scope.run_resolveAll_ofList.2 ⟨_, ht, rfl⟩
  · rintro ⟨fresh', matcher, control, hm, hcontrol, haccepts⟩
    rw [hargs] at hcontrol
    obtain ⟨texts, ht, rfl⟩ := Scope.run_resolveAll_ofList.1 hcontrol
    obtain ⟨list, hl, rfl, hplain⟩ :=
      Matcher.splitArguments_of_kept hk.closed (hk.kept texts fresh' ht) ht
    obtain ⟨id, fresh₂, hid⟩ := Draw.exists_run_uuid fresh'
    exact ⟨fresh₂, list, fresh', id, fresh₂, hl, hid, matcher, _, hm,
      by rw [resolveAll_of_plain hplain]; rfl, haccepts⟩

/-- A matcher expression that stands in the template of a control message is given the texts of its
arguments after two readings: that of the list of arguments, and one of each argument in the text of
the list. Judging a payload directly reads them once. Both give the same verdict if every argument
keeps its text. -/
theorem validateTemplate_verdict (c : Context) (type : MessageType) (received : Message)
    (e : String) (call : Call) (h : Matcher.parse e = .ok call) (fresh : Fresh) :
    (∀ fresh', (c.validateTemplate type received e).run fresh = .ok ((), fresh')
        ↔ ∃ list fresh₁ id fresh₂,
          (c.resolveChars (Matcher.argumentList e.toList)).run fresh = .ok (list, fresh₁)
          ∧ Draw.uuid.run fresh₁ = .ok (id, fresh₂)
          ∧ c.AcceptsCall "payload" received.payload.plain
            { call with args := Call.splitArguments list } fresh₂ fresh')
      ∧ (∀ fresh', (c.judge "payload" received.payload.plain e).run fresh = .ok ((), fresh')
        ↔ c.AcceptsCall "payload" received.payload.plain
          { call with args := Call.splitArguments (Matcher.argumentList e.toList) } fresh fresh')
      ∧ (c.KeepsArguments e fresh → ((c.validateTemplate type received e).Succeeds fresh
        ↔ (c.judge "payload" received.payload.plain e).Succeeds fresh)) := by
  refine ⟨fun fresh' => run_validateTemplate_eq_ok h, fun fresh' => ?_,
    succeeds_validateTemplate_iff h⟩
  rw [← Matcher.args_eq_of_parse h]
  exact Scope.run_judge_eq_ok h

/-- A context with a matcher that accepts what is listed, and a variable with a comma, a bracket and
a blank. -/
def listedContext : Context where
  vars := .ofList [("x", .text "a, (b"), ("y", .text "7")]
  matchers := [⟨"listed", "", .ofList [("oneOf", Matcher.oneOf "not listed")]⟩]

def listedMessage : Message :=
  { id := Uuid.random 0, timestamp := ⟨0, 0⟩, payload := .text "a, (b" }

/-- One argument in quotes and one without. -/
def listedExpression : String := "@oneOf('$\x7bx\x7d', $\x7by\x7d)@"

theorem mapM_listed : ((Call.splitArguments (Matcher.argumentList listedExpression.toList)).mapM
    listedContext.resolveChars).run {} = .ok (["a, (b".toList, "7".toList], {}) := by
  have hx : listedContext.resolveChars (Segment.placeholder ['x']).write = pure "a, (b".toList :=
    Scope.resolveChars_lookup ⟨by decide, by simp [Call.quote]⟩
  have hy : listedContext.resolveChars (Segment.placeholder ['y']).write = pure "7".toList :=
    Scope.resolveChars_lookup ⟨by decide, by simp [Call.quote]⟩
  have hargs : Call.splitArguments (Matcher.argumentList listedExpression.toList)
      = [(Segment.placeholder ['x']).write, (Segment.placeholder ['y']).write] := by decide
  rw [hargs, List.mapM_cons, hx, List.mapM_cons, hy]
  rfl

/-- A value with a comma and a bracket is kept by its quotes, and a number needs none. -/
theorem keepsArguments_listed : listedContext.KeepsArguments listedExpression {} where
  closed := by
    have hpieces : Call.pieces false 0 (Matcher.argumentList listedExpression.toList)
        = [[Call.quote] ++ (Segment.placeholder ['x']).write ++ [Call.quote],
          [' '] ++ (Segment.placeholder ['y']).write] := by decide
    rw [hpieces, List.forall_mem_cons, List.forall_mem_singleton,
      isSome_split?_append_inert (by simp [Call.quote]),
      isSome_split?_inert_append (by simp [Call.quote]), isSome_split?_inert_append (by simp)]
    exact ⟨isSome_split?_placeholder rfl, isSome_split?_placeholder rfl⟩
  kept texts fresh' h := by
    rw [mapM_listed] at h
    cases h
    have hzip : (Call.pieces false 0 (Matcher.argumentList listedExpression.toList)).zip
        ["a, (b".toList, "7".toList]
        = [("'$\x7bx\x7d'".toList, "a, (b".toList), (" $\x7by\x7d".toList, "7".toList)] := by
      decide
    rw [hzip, List.forall_mem_cons, List.forall_mem_singleton]
    have hseven : ∀ c ∈ "7".toList, Call.IsPlain 0 c ∧ Text.isBlank c = false := fun c hc => by
      obtain rfl : c = '7' := by simpa using hc
      decide
    refine ⟨Matcher.isKept_of_quoted (by decide) (by decide) (by decide), ?_⟩
    exact .bare (by decide) (Matcher.isBare_of_plain hseven (by decide)) (by decide)

theorem judge_listed :
    (listedContext.judge "payload" listedMessage.payload.plain listedExpression).Succeeds {} := by
  have hparse : Matcher.parse listedExpression = .ok ⟨"", "oneOf",
    Call.splitArguments (Matcher.argumentList listedExpression.toList)⟩ := by rfl
  refine Draw.succeeds_unit.2 ⟨{}, (Scope.run_judge_eq_ok hparse).2 ?_⟩
  refine ⟨_, ["a, (b", "7"], rfl, ?_, ?_⟩
  · exact Scope.run_resolveAll_ofList.2 ⟨_, mapM_listed, by simp⟩
  · rfl

theorem validateTemplate_verdict_listed :
    Matcher.parse listedExpression = .ok ⟨"", "oneOf",
        Call.splitArguments (Matcher.argumentList listedExpression.toList)⟩
      ∧ (listedContext.validateTemplate .plaintext listedMessage listedExpression).Succeeds {} := by
  have hparse : Matcher.parse listedExpression = .ok ⟨"", "oneOf",
    Call.splitArguments (Matcher.argumentList listedExpression.toList)⟩ := by rfl
  refine ⟨hparse, ?_⟩
  obtain ⟨-, -, hiff⟩ := validateTemplate_verdict listedContext .plaintext listedMessage
    listedExpression _ hparse {}
  exact (hiff keepsArguments_listed).2 judge_listed

/-! ## A variable that holds a placeholder -/

/-- A context with a variable whose value looks like a template. -/
def nestedContext : Context where
  vars := .ofList [("x", .text "$\x7by\x7d")]
  matchers := [Matcher.standard]

/-- A message with that value. -/
def nestedMessage : Message :=
  { id := Uuid.random 0, timestamp := ⟨0, 0⟩, payload := .text "$\x7by\x7d" }

/-- A matcher whose argument is a variable. -/
def nestedExpression : String := "@contains('$\x7bx\x7d')@"

/-- In the template of a control message the value of the variable is read again. -/
theorem validateTemplate_ne_judge :
    (nestedContext.judge "payload" nestedMessage.payload.plain nestedExpression).Succeeds {}
      ∧ ¬(nestedContext.validateTemplate .plaintext nestedMessage
          nestedExpression).Succeeds {} := by
  have hparse : Matcher.parse nestedExpression
    = .ok ⟨"", "contains", [(Segment.placeholder ['x']).write]⟩ := by rfl
  have hx : nestedContext.resolveChars (Segment.placeholder ['x']).write
      = pure (Segment.placeholder ['y']).write :=
    Scope.resolveChars_lookup ⟨by decide, by simp [Call.quote]⟩
  have hy : nestedContext.resolveChars (Segment.placeholder ['y']).write
      = throw (.unknownVariable "y") :=
    Scope.resolveChars_lookup ⟨by decide, by simp [Call.quote]⟩
  constructor
  · refine Draw.succeeds_unit.2 ⟨{}, (Scope.run_judge_eq_ok hparse).2 ?_⟩
    refine ⟨_, ["$\x7by\x7d"], rfl, ?_, ?_⟩
    · refine Scope.run_resolveAll_ofList.2 ⟨[(Segment.placeholder ['y']).write], ?_, by decide⟩
      rw [List.mapM_cons, hx]
      rfl
    · rfl
  · rw [Draw.succeeds_unit]
    rintro ⟨fresh', h⟩
    obtain ⟨list, fresh₁, id, fresh₂, hlist, -, matcher, control, -, hcontrol, -⟩ :=
      (run_validateTemplate_eq_ok hparse).1 h
    have hl : Matcher.argumentList nestedExpression.toList
      = [Call.quote] ++ (Segment.placeholder ['x']).write ++ [Call.quote] := by decide
    rw [hl, Scope.run_resolveChars_frame (by simp [Call.quote]) (by simp [Call.quote]), hx] at hlist
    obtain ⟨u, hu, rfl⟩ := hlist
    cases hu
    have hargs : Call.splitArguments ([Call.quote] ++ (Segment.placeholder ['y']).write
      ++ [Call.quote]) = [(Segment.placeholder ['y']).write] := by decide
    obtain ⟨texts, htexts, -⟩ := Scope.run_resolveAll_ofList.1 hcontrol
    rw [hargs, List.mapM_cons, hy] at htexts
    cases htexts

end Context
end Rehearsal

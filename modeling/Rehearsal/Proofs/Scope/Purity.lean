import Rehearsal.Proofs.Scope.Evaluation
import Rehearsal.Proofs.Template.Balance

/-!
# Pure templates

A draw is pure if it takes no random numbers and does not look at the clock. Main statement: a
template is pure in a scope if the functions that it calls are (`Scope.isPure_resolve`), so that
resolving it again gives the same text.
-/

namespace Rehearsal

namespace Draw

variable {α β : Type}

/-- The outcome is the same at every time and with all random numbers, and none is taken. -/
def IsPure (d : Draw α) : Prop := ∃ r : Except Error α, d = liftM r

theorem isPure_liftM (r : Except Error α) : IsPure (liftM r) := ⟨r, rfl⟩

theorem isPure_pure (a : α) : IsPure (pure a) := ⟨.ok a, rfl⟩

theorem isPure_throw (e : Error) : IsPure (throw e : Draw α) := ⟨.error e, rfl⟩

/-- What follows on a pure draw has to be pure for the value of that draw only. -/
theorem isPure_bind_of {x : Draw α} {f : α → Draw β} (hx : IsPure x)
    (hf : ∀ a, x = pure a → IsPure (f a)) : IsPure (x >>= f) := by
  obtain ⟨r, rfl⟩ := hx
  cases r with
  | error e => exact ⟨.error e, rfl⟩
  | ok a =>
    obtain ⟨r, hr⟩ := hf a rfl
    exact ⟨r, hr⟩

theorem isPure_bind {x : Draw α} {f : α → Draw β} (hx : IsPure x) (hf : ∀ a, IsPure (f a)) :
    IsPure (x >>= f) := isPure_bind_of hx fun a _ => hf a

theorem isComposable_isPure : IsComposable IsPure :=
  ⟨isPure_pure, fun _ => isPure_throw _, isPure_bind⟩

/-- A pure draw that gives a value leaves the random numbers and gives it always. -/
theorem IsPure.run_eq_ok {x : Draw α} (h : IsPure x) {fresh fresh' : Fresh} {a : α}
    (hr : x.run fresh = .ok (a, fresh')) :
    fresh' = fresh ∧ ∀ fresh'', x.run fresh'' = .ok (a, fresh'') := by
  obtain ⟨r, rfl⟩ := h
  obtain ⟨ha, hf⟩ := run_liftM_eq_ok.1 hr
  exact ⟨hf, fun fresh'' => run_liftM_eq_ok.2 ⟨ha, rfl⟩⟩

end Draw

namespace Scope

open Draw

/-- Every function under one of these names is pure. -/
def ArePure (s : Scope) (calls : List (String × String)) : Prop :=
  ∀ c ∈ calls, ∀ f, s.functions.lookup? c.1 c.2 = some f → ∀ args, (f args).IsPure

/-- The functions that a template calls are pure. -/
def IsPureTemplate (s : Scope) (template : String) : Prop :=
  s.ArePure (s.read template.toList).calls

/-- A template that calls pure functions only is pure. -/
theorem isPure_resolve {s : Scope} {template : String} (h : s.IsPureTemplate template) :
    (s.resolve template).IsPure :=
  isPure_bind (eval_of_isComposable isComposable_isPure _ h) fun _ => isPure_pure _

theorem resolveAll_eq_mapM (s : Scope) (templates : List String) :
    s.resolveAll templates = templates.mapM s.resolve := by
  induction templates with
  | nil => rfl
  | cons t ts ih => rw [resolveAll, List.mapM_cons, ih]

theorem isPure_resolveAll {s : Scope} {templates : List String}
    (h : ∀ t ∈ templates, s.IsPureTemplate t) : (s.resolveAll templates).IsPure := by
  induction templates with
  | nil => exact isPure_pure []
  | cons t ts ih =>
    refine isPure_bind (isPure_resolve (h t (by simp))) fun r => ?_
    exact isPure_bind (ih fun t ht => h t (by simp [ht])) fun rs => isPure_pure _

/-! ## Plain templates -/

theorem resolveChars_of_plain (s : Scope) {cs : List Char}
    (h : Text.contains Template.opening cs = false) : s.resolveChars cs = pure cs := by
  have hread : s.read cs = .template ((Template.literalSegment cs).map
      (Expression.ofSegment s.functions.knows)) := by
    rw [read, Expression.ofTemplate_eq, Template.split?_of_literal h]
  rw [resolveChars, hread]
  cases cs <;> simp [Template.literalSegment, Expression.ofSegment, eval, evalAll]

/-- A template without an opening of a placeholder stands for itself. -/
theorem resolve_of_plain (s : Scope) {template : String}
    (h : Text.contains Template.opening template.toList = false) :
    s.resolve template = pure template := by
  rw [resolve, resolveChars_of_plain s h, pure_bind, String.ofList_toList]

theorem resolveAll_of_plain (s : Scope) {templates : List String}
    (h : ∀ t ∈ templates, Text.contains Template.opening t.toList = false) :
    s.resolveAll templates = pure templates := by
  induction templates with
  | nil => rfl
  | cons t ts ih =>
    rw [resolveAll, resolve_of_plain s (h t (by simp)), ih fun u hu => h u (by simp [hu])]
    rfl

/-- A template without an opening of a placeholder calls no function. -/
theorem isPureTemplate_of_plain (s : Scope) {template : String}
    (h : Text.contains Template.opening template.toList = false) : s.IsPureTemplate template := by
  have hcalls : (s.read template.toList).calls = [] := by
    rw [read, Expression.ofTemplate_eq, Template.split?_of_literal h]
    cases template.toList <;>
      simp [Template.literalSegment, Expression.ofSegment, Expression.calls,
        Expression.callsOfAll]
  rw [IsPureTemplate, hcalls]
  exact fun c hc => absurd hc List.not_mem_nil

end Scope
end Rehearsal

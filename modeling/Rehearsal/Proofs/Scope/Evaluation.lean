import Rehearsal.Proofs.Ordinary
import Rehearsal.Scope

/-!
# Evaluating expressions

A property of draws is composable if values and ordinary errors have it, and two parts one after the
other have it if both have. The evaluation of an expression is made of these and of the functions
that it calls. Main statement: it has every composable property that these functions have
(`Scope.eval_of_isComposable`).
-/

namespace Rehearsal

/-- The property holds of values and of ordinary errors, and of two parts one after the other if it
holds of both. -/
structure Draw.IsComposable (P : {α : Type} → Draw α → Prop) : Prop where
  ofPure : ∀ {α : Type} (a : α), P (pure a)
  ofError : ∀ {α : Type} {e : Error}, e.IsOrdinary → P (throw e : Draw α)
  ofBind : ∀ {α β : Type} {x : Draw α} {f : α → Draw β}, P x → (∀ a, P (f a)) → P (x >>= f)

theorem Draw.isComposable_isOrdinary : Draw.IsComposable Draw.IsOrdinary :=
  ⟨isOrdinary_pure, isOrdinary_throw, isOrdinary_bind⟩

/-! ## Calls in expressions -/

mutual
/-- The qualifiers and names of the functions that an expression calls. -/
def Expression.calls : Expression → List (String × String)
  | .call qualifier name args => (qualifier, name) :: Expression.callsOfAll args
  | .template parts => Expression.callsOfAll parts
  | _ => []

def Expression.callsOfAll : List Expression → List (String × String)
  | [] => []
  | e :: es => Expression.calls e ++ Expression.callsOfAll es
end

namespace Scope

open Draw

/-- Every function under one of these names has the property, whatever its arguments are. -/
def AreAll (P : {α : Type} → Draw α → Prop) (s : Scope) (calls : List (String × String)) : Prop :=
  ∀ c ∈ calls, ∀ f, s.functions.lookup? c.1 c.2 = some f → ∀ args, P (f args)

variable {P : {α : Type} → Draw α → Prop} {s : Scope}

theorem value?_of_isComposable (hP : IsComposable P) (s : Scope) (name : String) :
    P (liftM (s.value? name) : Draw Json) := by
  rw [value?]
  split
  · exact hP.ofPure _
  · exact hP.ofError trivial

/-- A function that is looked up has the property of all functions under its name. -/
theorem function?_bind_of_isComposable (hP : IsComposable P) {α : Type} {qualifier name : String}
    {k : Function → Draw α}
    (h : ∀ f, s.functions.lookup? qualifier name = some f → P (k f)) :
    P (liftM (s.function? qualifier name) >>= k) := by
  rw [function?]
  split
  · next f hf => exact h f hf
  · exact hP.ofError trivial

mutual
/-- The text of an expression has a property that its functions have. -/
theorem eval_of_isComposable (hP : IsComposable P) : ∀ (e : Expression), s.AreAll P e.calls →
    P (s.eval e)
  | .literal t, _ => hP.ofPure t
  | .lookup name, _ => hP.ofBind (value?_of_isComposable hP s _) fun _ => hP.ofPure _
  | .unterminated t, _ => hP.ofError trivial
  | .template parts, h => hP.ofBind (evalAll_of_isComposable hP parts h) fun _ => hP.ofPure _
  | .call qualifier name args, h => by
    have hargs : s.AreAll P (Expression.callsOfAll args) := fun c hc =>
      h c (List.mem_cons_of_mem _ hc)
    rw [eval]
    refine function?_bind_of_isComposable hP fun f hf => ?_
    have hcall := h (qualifier, name) List.mem_cons_self f hf
    exact hP.ofBind (evalAll_of_isComposable hP args hargs) fun _ =>
      hP.ofBind (hcall _) fun _ => hP.ofPure _

theorem evalAll_of_isComposable (hP : IsComposable P) : ∀ (es : List Expression),
    s.AreAll P (Expression.callsOfAll es) → P (s.evalAll es)
  | [], _ => hP.ofPure []
  | e :: es, h => by
    have he : s.AreAll P e.calls := fun c hc => h c (List.mem_append_left _ hc)
    have hes : s.AreAll P (Expression.callsOfAll es) := fun c hc =>
      h c (List.mem_append_right _ hc)
    exact hP.ofBind (eval_of_isComposable hP e he) fun _ =>
      hP.ofBind (evalAll_of_isComposable hP es hes) fun _ => hP.ofPure _
end

end Scope
end Rehearsal

import Rehearsal.Proofs.Assoc
import Rehearsal.Proofs.Call.Composition
import Rehearsal.Proofs.Scope.Append

/-!
# Resolving texts one behind the other

A draw is deterministic if its value hangs on no random number and on no clock. In a scope whose
functions are, every template is (`Scope.isDeterministic_resolve`), so that two templates that stand
one behind the other may be resolved apart: neither is looked at beyond the seam, as long as no
placeholder begins there. Main statement: their text, or their error, is that of the first one and
then of the second one; and where the second one does not close a placeholder, this error comes
before all others (`resolve_append`).
-/

namespace Rehearsal

/-! ## Deterministic draws -/

namespace Draw

variable {α β : Type}

/-- The value that a draw gives, or the error. -/
def value (d : Draw α) (fresh : Fresh) : Except Error α := (d.run fresh).map (·.1)

/-- The value is the same with all random numbers and at every time. -/
def IsDeterministic (d : Draw α) : Prop := ∀ fresh fresh', d.value fresh = d.value fresh'

theorem isDeterministic_pure (a : α) : IsDeterministic (pure a) := fun _ _ => rfl

theorem isDeterministic_throw (e : Error) : IsDeterministic (throw e : Draw α) := fun _ _ => rfl

/-- The second part may be given the random numbers of the first one once more. -/
theorem value_bind (x : Draw α) {f : α → Draw β} (hf : ∀ a, IsDeterministic (f a))
    (fresh : Fresh) : (x >>= f).value fresh = x.value fresh >>= fun a => (f a).value fresh := by
  rw [value, value]
  cases hx : x.run fresh with
  | error e =>
    rw [run_bind_of_error hx]
    rfl
  | ok r =>
    obtain ⟨a, fresh'⟩ := r
    rw [run_bind_of_ok hx]
    exact hf a fresh' fresh

theorem isDeterministic_bind {x : Draw α} {f : α → Draw β} (hx : IsDeterministic x)
    (hf : ∀ a, IsDeterministic (f a)) : IsDeterministic (x >>= f) := by
  intro fresh fresh'
  rw [value_bind x hf, value_bind x hf, hx fresh fresh']
  exact congrArg _ (funext fun a => hf a fresh fresh')

theorem isComposable_isDeterministic : IsComposable IsDeterministic :=
  ⟨isDeterministic_pure, fun _ => isDeterministic_throw _, isDeterministic_bind⟩

end Draw

/-! ## Deterministic scopes -/

namespace Scope

open Draw Template

/-- The functions of the scope are deterministic. -/
def IsDeterministic (s : Scope) : Prop := ∀ qualifier name f,
  s.functions.lookup? qualifier name = some f → ∀ args, (f args).IsDeterministic

variable {s : Scope}

/-- In a deterministic scope a template has one text. -/
theorem isDeterministic_resolve (h : s.IsDeterministic) (template : String) :
    (s.resolve template).IsDeterministic :=
  isDeterministic_bind (eval_of_isComposable isComposable_isDeterministic _ fun c _ => h c.1 c.2)
    fun _ => isDeterministic_pure _

/-! ## The seam -/

theorem resolve_concat {a b : String} (ha : (split? a.toList).isSome)
    (hb : (split? b.toList).isSome) (hab : Apart a.toList b.toList) :
    s.resolve (a ++ b) = (do
      let x ← s.resolve a
      let y ← s.resolve b
      return x ++ y) := by
  simp only [resolve, String.toList_append, resolveChars_append ha hb hab, bind_assoc, pure_bind,
    String.ofList_append]

theorem value_resolve_concat (h : s.IsDeterministic) {a b : String}
    (ha : (split? a.toList).isSome) (hb : (split? b.toList).isSome)
    (hab : Apart a.toList b.toList) (fresh : Fresh) :
    (s.resolve (a ++ b)).value fresh = (do
      let x ← (s.resolve a).value fresh
      let y ← (s.resolve b).value fresh
      return x ++ y) := by
  have hb' : ∀ x, ((s.resolve b) >>= fun y => pure (x ++ y)).IsDeterministic := fun x =>
    isDeterministic_bind (isDeterministic_resolve h b) fun _ => isDeterministic_pure _
  rw [resolve_concat ha hb hab, value_bind _ hb']
  refine congrArg _ (funext fun x => ?_)
  exact value_bind _ (fun _ => isDeterministic_pure _) fresh

/-- A placeholder that is not closed makes all of the text unreadable, whatever stands before it. -/
theorem resolve_concat_of_unclosed {a b : String} (ha : (split? a.toList).isSome)
    (hb : split? b.toList = none) (hab : Apart a.toList b.toList) :
    s.resolve (a ++ b) = throw (.expression (.unterminated (a ++ b))) := by
  obtain ⟨segments, hsegments⟩ := Option.isSome_iff_exists.1 ha
  have hsplit : split? (a ++ b).toList = none := by
    rw [String.toList_append, split?_append hsegments hab, hb]
    rfl
  rw [resolve, resolveChars_of_split?_eq_none hsplit, String.ofList_toList]
  rfl

/-- Two templates one behind the other, the first one with all its placeholders closed and none that
begins at the seam. If the second one closes its placeholders too, they are resolved one after the
other: with deterministic functions this gives both texts one behind the other, or else the error of
the first one that has an error. If the second one does not, this is the error, whatever the first
one stands for. -/
theorem resolve_append (s : Scope) {a b : String} (ha : (split? a.toList).isSome)
    (hab : Apart a.toList b.toList) :
    ((split? b.toList).isSome →
      s.resolve (a ++ b) = (do
        let x ← s.resolve a
        let y ← s.resolve b
        return x ++ y)
      ∧ (s.IsDeterministic → ∀ fresh,
        (∀ x y, (s.resolve a).value fresh = .ok x → (s.resolve b).value fresh = .ok y →
          (s.resolve (a ++ b)).value fresh = .ok (x ++ y))
        ∧ (∀ e, (s.resolve a).value fresh = .error e →
          (s.resolve (a ++ b)).value fresh = .error e)
        ∧ ∀ x e, (s.resolve a).value fresh = .ok x → (s.resolve b).value fresh = .error e →
          (s.resolve (a ++ b)).value fresh = .error e))
      ∧ (split? b.toList = none → ∀ fresh,
        (s.resolve (a ++ b)).value fresh = .error (.expression (.unterminated (a ++ b)))) := by
  refine ⟨fun hb => ⟨resolve_concat ha hb hab, fun hs fresh => ?_⟩, fun hb fresh => ?_⟩
  · rw [value_resolve_concat hs ha hb hab]
    refine ⟨fun x y hx hy => ?_, fun e hx => ?_, fun x e hx hy => ?_⟩
    · rw [hx, hy]
      rfl
    · rw [hx]
      rfl
    · rw [hx, hy]
      rfl
  · rw [resolve_concat_of_unclosed ha hb hab]
    rfl

/-- A scope with a function that joins, and one variable. -/
def joining : Scope where
  vars := .ofList [("x", .text "1")]
  functions := [⟨"joiners", "my:", .ofList [("join", fun args => return String.join args)]⟩]

theorem isDeterministic_joining : joining.IsDeterministic := by
  intro qualifier name f hf
  obtain ⟨l, hl, hentry⟩ := List.exists_of_findSome?_eq_some hf
  obtain rfl := List.mem_singleton.1 hl
  split at hentry
  · refine Assoc.of_get?_ofList (C := fun f : Function => ∀ args, (f args).IsDeterministic) ?_
      hentry
    exact List.forall_mem_singleton.2 fun args => isDeterministic_pure _
  · cases hentry

/-- A `$` at the seam begins no placeholder if no brace follows. What is not found in the first
template does not matter if the second one does not end. -/
theorem resolve_append_joining :
    joining.IsDeterministic
      ∧ (joining.resolve ("$\x7bx\x7d" ++ "$")).value {} = .ok "1$"
      ∧ (joining.resolve ("$" ++ "$\x7by\x7d")).value {} = .error (.unknownVariable "y")
      ∧ (joining.resolve ("$\x7by\x7d" ++ "$\x7b")).value {}
        = .error (.expression (.unterminated "$\x7by\x7d$\x7b")) := by
  have hx : CallTree.IsVariable ['x'] := ⟨by decide, by simp [Call.quote]⟩
  have hy : CallTree.IsVariable ['y'] := ⟨by decide, by simp [Call.quote]⟩
  have hopenx : "$\x7bx\x7d".toList = (Segment.placeholder ['x']).write := by decide
  have hopeny : "$\x7by\x7d".toList = (Segment.placeholder ['y']).write := by decide
  have hvaluex : (joining.resolve "$\x7bx\x7d").value {} = .ok "1" := by
    rw [resolve, hopenx, resolveChars_lookup hx]
    rfl
  have hvaluey : (joining.resolve "$\x7by\x7d").value {} = .error (.unknownVariable "y") := by
    rw [resolve, hopeny, resolveChars_lookup hy]
    rfl
  have hdollar : (joining.resolve "$").value {} = .ok "$" := by
    rw [resolve_of_plain joining (by decide)]
    rfl
  have hclosedx : (split? "$\x7bx\x7d".toList).isSome := by
    rw [hopenx]
    exact isSome_split?_placeholder (CallTree.balanced_of_isVariable hx)
  have hclosedy : (split? "$\x7by\x7d".toList).isSome := by
    rw [hopeny]
    exact isSome_split?_placeholder (CallTree.balanced_of_isVariable hy)
  have hplain : (split? "$".toList).isSome := by
    rw [split?_of_literal (by decide)]
    rfl
  have hunclosed : split? "$\x7b".toList = none := by
    rw [split?_eq]
    rfl
  have hjoin := (resolve_append joining hclosedx fun h => absurd h.2 (by decide)).1 hplain
  have hfail := (resolve_append joining hplain fun h => absurd h.2 (by decide)).1 hclosedy
  have hopen := (resolve_append joining hclosedy fun h => absurd h.2 (by decide)).2 hunclosed
  refine ⟨isDeterministic_joining, ?_, ?_, ?_⟩
  · exact (hjoin.2 isDeterministic_joining {}).1 _ _ hvaluex hdollar
  · exact (hfail.2 isDeterministic_joining {}).2.2 _ _ hdollar hvaluey
  · exact hopen {}

end Scope
end Rehearsal

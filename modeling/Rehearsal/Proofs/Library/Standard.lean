import Rehearsal.Function.Standard
import Rehearsal.Matcher.Standard
import Rehearsal.Proofs.Assoc
import Rehearsal.Proofs.Ordinary

/-!
# The errors of the standard libraries

Main statements: the standard functions and the standard matchers have ordinary errors only
(`Function.isOrdinary_standard` and `Matcher.onlyOrdinary_standard`).
-/

namespace Rehearsal

open Draw

namespace Function

/-- What a function says of its arguments is ordinary. -/
theorem onlyOrdinary_fail {α : Type} (function : String) (fault : ArgumentFault) :
    OnlyOrdinary (fail function fault : Except Error α) := .error trivial

/-- A wrong number of arguments is an ordinary error. -/
theorem onlyOrdinary_checkCount (function : String) (arity : Arity) (args : List String) :
    OnlyOrdinary (checkCount function arity args) := by
  unfold checkCount
  split
  · exact .ok ()
  · exact onlyOrdinary_fail function _

/-- So is an argument that is no number. -/
theorem onlyOrdinary_number (function arg : String) : OnlyOrdinary (number function arg) := by
  unfold number
  split
  · exact .ok _
  · exact onlyOrdinary_fail function _

/-- And one that is no place in a text. -/
theorem onlyOrdinary_index (function arg : String) : OnlyOrdinary (index function arg) := by
  unfold index
  split
  · exact .ok _
  · exact onlyOrdinary_fail function _

/-- A function of one argument fails as what it does with the argument, or because of the number of
arguments. -/
theorem isOrdinary_unary (function : String) {f : String → Except Error String}
    (h : ∀ a, OnlyOrdinary (f a)) (args : List String) : (unary function f args).IsOrdinary := by
  unfold unary
  split
  · exact isOrdinary_liftM (h _)
  · exact isOrdinary_liftM (onlyOrdinary_fail function _)

/-- Functions that fold numbers fail if there are too few arguments, or if one is no number. -/
theorem isOrdinary_reduce (function : String) (start : Double)
    (combine : Double → Double → Double) (args : List String) :
    (reduce function start combine args).IsOrdinary := by
  refine isOrdinary_bind (isOrdinary_liftM (onlyOrdinary_checkCount function _ args)) fun _ => ?_
  refine isOrdinary_bind (isOrdinary_liftM ?_) fun _ => isOrdinary_pure _
  exact .mapM (onlyOrdinary_number function) args

theorem isOrdinary_onNumber (function : String) (f : Double → Double) (args : List String) :
    (onNumber function f args).IsOrdinary :=
  isOrdinary_unary function (fun a => (onlyOrdinary_number function a).map _) args

theorem isOrdinary_substring (args : List String) : (substring args).IsOrdinary := by
  refine isOrdinary_bind (isOrdinary_liftM (onlyOrdinary_checkCount _ _ args)) fun _ => ?_
  refine isOrdinary_bind (isOrdinary_liftM (onlyOrdinary_index _ _)) fun start => ?_
  -- with an end or without one, all that is left is to compare the two places
  have hrest : ∀ stop, IsOrdinary (if stop < start ∨ (args.headD "").toList.length < stop then
      liftM (fail (α := String) "substring" (.range start stop (args.headD "").toList.length))
      else pure (String.ofList (((args.headD "").toList.drop start).take (stop - start)))) := by
    intro stop
    split
    · exact isOrdinary_liftM (onlyOrdinary_fail _ _)
    · exact isOrdinary_pure _
  cases h : args[2]? with
  | none => exact hrest _
  | some a => exact isOrdinary_bind (isOrdinary_liftM (onlyOrdinary_index _ a)) hrest

/-- A pattern that cannot be read is a fault of the argument. -/
theorem isOrdinary_translate (args : List String) : (translate args).IsOrdinary := by
  unfold translate
  split
  · split
    · exact isOrdinary_pure _
    · exact isOrdinary_liftM (onlyOrdinary_fail _ _)
  · exact isOrdinary_liftM (onlyOrdinary_fail _ _)

/-- Random digits never fail, as every number of digits can be drawn. -/
theorem isOrdinary_digits (n : Nat) : (digits n).IsOrdinary := by
  induction n with
  | zero => exact isOrdinary_pure _
  | succ n ih =>
    exact isOrdinary_bind (isOrdinary_below 10) fun _ =>
      isOrdinary_bind ih fun _ => isOrdinary_pure _

theorem isOrdinary_randomNumber (args : List String) : (randomNumber args).IsOrdinary := by
  refine isOrdinary_bind (isOrdinary_liftM (onlyOrdinary_checkCount _ _ args)) fun _ => ?_
  refine isOrdinary_bind (isOrdinary_liftM (onlyOrdinary_index _ _)) fun length => ?_
  -- with leading zeros all digits are alike, else the first one is drawn from nine
  dsimp only
  split
  · exact isOrdinary_bind (isOrdinary_digits length) fun _ => isOrdinary_pure _
  · exact isOrdinary_bind (isOrdinary_below 9) fun _ =>
      isOrdinary_bind (isOrdinary_digits _) fun _ => isOrdinary_pure _

/-- Random characters never fail, whatever the alphabet is. -/
theorem isOrdinary_characters (alphabet : Array Char) (n : Nat) :
    (characters alphabet n).IsOrdinary := by
  induction n with
  | zero => exact isOrdinary_pure _
  | succ n ih =>
    exact isOrdinary_bind (isOrdinary_below _) fun _ =>
      isOrdinary_bind ih fun _ => isOrdinary_pure _

theorem isOrdinary_randomString (args : List String) : (randomString args).IsOrdinary := by
  refine isOrdinary_bind (isOrdinary_liftM (onlyOrdinary_checkCount _ _ args)) fun _ => ?_
  refine isOrdinary_bind (isOrdinary_liftM (onlyOrdinary_index _ _)) fun length => ?_
  -- no character needs no alphabet
  dsimp only
  split
  · exact isOrdinary_pure _
  · split
    · exact isOrdinary_bind (isOrdinary_characters _ length) fun _ => isOrdinary_pure _
    · exact isOrdinary_liftM (onlyOrdinary_fail _ _)

/-- A random identifier is never refused. -/
theorem isOrdinary_randomUuid (args : List String) : (randomUuid args).IsOrdinary :=
  isOrdinary_bind (isOrdinary_liftM (onlyOrdinary_checkCount _ _ args)) fun _ =>
    isOrdinary_bind isOrdinary_uuid fun _ => isOrdinary_pure _

/-- So is a format that the date does not have. -/
theorem isOrdinary_currentDate (args : List String) : (currentDate args).IsOrdinary := by
  refine isOrdinary_bind (isOrdinary_liftM (onlyOrdinary_checkCount _ _ args)) fun _ => ?_
  refine isOrdinary_bind isOrdinary_now fun now => ?_
  split
  · exact isOrdinary_pure _
  · exact isOrdinary_liftM (onlyOrdinary_fail _ _)

/-- The standard functions have ordinary errors only. -/
theorem isOrdinary_standard {name : String} {f : Function}
    (h : standard.entries.get? name = some f) (args : List String) : (f args).IsOrdinary := by
  -- the library is a list of functions, and each of them has its lemma
  refine Assoc.of_get?_ofList (C := fun f => ∀ args, (f args).IsOrdinary) ?_ h args
  simp only [List.forall_mem_cons]
  exact ⟨fun _ => isOrdinary_pure _, isOrdinary_unary _ fun _ => .ok _,
    isOrdinary_unary _ fun _ => .ok _, isOrdinary_substring, isOrdinary_unary _ fun _ => .ok _,
    isOrdinary_translate, isOrdinary_randomNumber, isOrdinary_randomString, isOrdinary_randomUuid,
    isOrdinary_currentDate, isOrdinary_reduce _ _ _, isOrdinary_reduce _ _ _,
    isOrdinary_reduce _ _ _, isOrdinary_onNumber _ _, isOrdinary_onNumber _ _,
    isOrdinary_unary _ fun _ => .ok _, by simp⟩

end Function

namespace Matcher

/-- What a matcher finds wrong with a value is ordinary. -/
theorem onlyOrdinary_require (holds : Bool) (field value expectation : String) :
    OnlyOrdinary (require holds field value expectation) := by
  unfold require
  split
  · exact .ok ()
  · exact .error trivial

theorem onlyOrdinary_simple (holds : String → Bool) (expectation field value : String)
    (control : List String) : OnlyOrdinary (simple holds expectation field value control) :=
  onlyOrdinary_require _ field value expectation

/-- A matcher with an argument fails as its judgement does, or because there is no argument. -/
theorem onlyOrdinary_withArgument (name : String)
    {judge : (field value argument : String) → Except Error Unit}
    (h : ∀ field value argument, OnlyOrdinary (judge field value argument)) (field value : String)
    (control : List String) : OnlyOrdinary (withArgument name judge field value control) := by
  unfold withArgument
  split
  · exact h field value _
  · exact .error trivial

theorem onlyOrdinary_comparing (name : String) (holds : (value argument : List Char) → Bool)
    (expectation : String → String) (field value : String) (control : List String) :
    OnlyOrdinary (comparing name holds expectation field value control) :=
  onlyOrdinary_withArgument name (fun field value _ => onlyOrdinary_require _ field value _) _ _ _

theorem onlyOrdinary_number (name text : String) : OnlyOrdinary (number name text) := by
  unfold number
  split
  · exact .ok _
  · exact .error trivial

/-- Either side may be no number, and the comparison may fail. -/
theorem onlyOrdinary_comparingNumbers (name : String) (holds : (value limit : Double) → Bool)
    (relation field value : String) (control : List String) :
    OnlyOrdinary (comparingNumbers name holds relation field value control) :=
  onlyOrdinary_withArgument name (fun field value argument =>
    (onlyOrdinary_number name argument).bind fun _ =>
      (onlyOrdinary_number name value).bind fun _ => onlyOrdinary_require _ field value _) _ _ _

/-- A pattern that cannot be read is a fault of the argument. -/
theorem onlyOrdinary_fullMatch (field value : String) (control : List String) :
    OnlyOrdinary (fullMatch field value control) := by
  refine onlyOrdinary_withArgument "matches" (fun field value argument => ?_) field value control
  split
  · exact onlyOrdinary_require _ field value _
  · exact .error trivial

theorem onlyOrdinary_stringLength (field value : String) (control : List String) :
    OnlyOrdinary (stringLength field value control) := by
  refine onlyOrdinary_withArgument _ (fun field value argument => ?_) field value control
  split
  · exact onlyOrdinary_require _ field value _
  · exact .error trivial

/-- The standard matchers have ordinary errors only. -/
theorem onlyOrdinary_standard {name : String} {m : Matcher}
    (h : standard.entries.get? name = some m) (field value : String) (control : List String) :
    OnlyOrdinary (m field value control) := by
  refine Assoc.of_get?_ofList
    (C := fun m => ∀ field value control, OnlyOrdinary (m field value control)) ?_ h _ _ _
  simp only [List.forall_mem_cons]
  exact ⟨fun _ _ _ => .ok (), onlyOrdinary_comparing _ _ _, onlyOrdinary_comparing _ _ _,
    onlyOrdinary_comparing _ _ _, onlyOrdinary_comparing _ _ _, onlyOrdinary_comparing _ _ _,
    onlyOrdinary_fullMatch, onlyOrdinary_simple _ _, onlyOrdinary_comparingNumbers _ _ _,
    onlyOrdinary_comparingNumbers _ _ _, onlyOrdinary_simple _ _, onlyOrdinary_simple _ _,
    onlyOrdinary_simple _ _, onlyOrdinary_stringLength, by simp⟩

end Matcher
end Rehearsal

import Rehearsal.Condition
import Rehearsal.Proofs.Scope.Evaluation
import Rehearsal.Validation

/-!
# Scopes with ordinary errors

A scope is ordinary if its functions and matchers have ordinary errors only. Main statements: in
such a scope templates, conditions and validations have ordinary errors only
(`isOrdinary_resolve`, `isOrdinary_holds`, `isOrdinary_validate`).
-/

namespace Rehearsal.Scope

open Draw

/-- The functions and the matchers of the scope have ordinary errors only. -/
structure IsOrdinary (s : Scope) : Prop where
  functions : ∀ qualifier name f, s.functions.lookup? qualifier name = some f →
    ∀ args, (f args).IsOrdinary
  matchers : ∀ qualifier name m, s.matchers.lookup? qualifier name = some m →
    ∀ field value control, OnlyOrdinary (m field value control)

variable {s : Scope}

/-! ## Templates -/

/-- An evaluation is put together from calls of functions, and these are ordinary. -/
theorem isOrdinary_resolveChars (h : s.IsOrdinary) (cs : List Char) :
    (s.resolveChars cs).IsOrdinary :=
  eval_of_isComposable isComposable_isOrdinary _ fun c _ => h.functions c.1 c.2

/-- Templates have ordinary errors only. -/
theorem isOrdinary_resolve (h : s.IsOrdinary) (template : String) :
    (s.resolve template).IsOrdinary :=
  isOrdinary_bind (isOrdinary_resolveChars h _) fun _ => isOrdinary_pure _

theorem isOrdinary_resolveAll (h : s.IsOrdinary) (templates : List String) :
    (s.resolveAll templates).IsOrdinary := by
  induction templates with
  | nil => exact isOrdinary_pure []
  | cons t ts ih =>
    exact isOrdinary_bind (isOrdinary_resolve h t) fun _ =>
      isOrdinary_bind ih fun _ => isOrdinary_pure _

theorem isOrdinary_resolveValue (h : s.IsOrdinary) (v : Json) : (s.resolveValue v).IsOrdinary := by
  unfold resolveValue
  split
  · exact isOrdinary_bind (isOrdinary_resolve h _) fun _ => isOrdinary_pure _
  · exact isOrdinary_pure _

/-! ## Conditions -/

/-- A condition fails only if it is neither a comparison nor one of the words for true and false. -/
theorem onlyOrdinary_decide? (cs : List Char) : OnlyOrdinary (Condition.decide? cs) := by
  unfold Condition.decide?
  dsimp only
  split
  · exact .ok _
  · split
    · exact .ok _
    · split
      · exact .error trivial
      · exact .ok _

/-- Conditions have ordinary errors only. -/
theorem isOrdinary_holds (h : s.IsOrdinary) (condition : String) :
    (s.holds condition).IsOrdinary :=
  isOrdinary_bind (isOrdinary_resolveChars h _) fun cs => isOrdinary_liftM (onlyOrdinary_decide? cs)

/-! ## Validation -/

/-- What a validation finds wrong is ordinary. -/
theorem isOrdinary_mismatch {α : Type} (m : Mismatch) : (mismatch m : Draw α).IsOrdinary :=
  isOrdinary_throw trivial

theorem onlyOrdinary_parse (expression : String) : OnlyOrdinary (Matcher.parse expression) := by
  unfold Matcher.parse
  split
  · exact .error trivial
  · split
    · exact .error trivial
    · exact .ok _

theorem onlyOrdinary_matcher? (s : Scope) (qualifier name : String) :
    OnlyOrdinary (s.matcher? qualifier name) := by
  unfold matcher?
  split
  · exact .ok _
  · exact .error trivial

/-- A matcher that is found is one of the scope. -/
theorem onlyOrdinary_of_matcher? (h : s.IsOrdinary) {qualifier name : String} {m : Matcher}
    (hm : s.matcher? qualifier name = .ok m) (field value : String) (control : List String) :
    OnlyOrdinary (m field value control) := by
  unfold matcher? at hm
  split at hm
  · next m' hm' =>
    cases hm
    exact h.matchers qualifier name m hm' field value control
  · cases hm

/-- A matcher expression fails when it is read, when its matcher is looked up, when its arguments
are resolved, or by the verdict. -/
theorem isOrdinary_judge (h : s.IsOrdinary) (field value expression : String) :
    (s.judge field value expression).IsOrdinary := by
  refine isOrdinary_bind (isOrdinary_liftM (onlyOrdinary_parse expression)) fun call => ?_
  -- the matcher that is judged with is one that was found
  refine isOrdinary_liftM_bind (onlyOrdinary_matcher? s _ _) fun m hm => ?_
  exact isOrdinary_bind (isOrdinary_resolveAll h _) fun control =>
    isOrdinary_liftM (onlyOrdinary_of_matcher? h hm field value control)

theorem isOrdinary_checkEqual (path : String) (expected actual : Json) :
    (checkEqual path expected actual).IsOrdinary := by
  unfold checkEqual
  split
  · exact isOrdinary_pure _
  · exact isOrdinary_mismatch _

mutual
/-- Documents are compared place by place, and each place fails as it is compared or judged. -/
theorem isOrdinary_checkJson (h : s.IsOrdinary) : ∀ (path : String) (expected actual : Json),
    (s.checkJson path expected actual).IsOrdinary
  | path, .text e, actual => by
    rw [checkJson]
    split
    · exact isOrdinary_judge h path _ e
    · exact isOrdinary_checkEqual path _ actual
  | path, .object es, .object fs => by
    rw [checkJson]
    split
    · exact isOrdinary_mismatch _
    · exact isOrdinary_checkFields h path es fs
  | path, .array es, .array vs => by
    rw [checkJson]
    split
    · exact isOrdinary_mismatch _
    · exact isOrdinary_checkItems h path 0 es vs
  -- where the two are of different kinds they are compared for equality
  | path, .object es, .null | path, .object es, .bool _ | path, .object es, .number _
  | path, .object es, .text _ | path, .object es, .array _ => by
    rw [checkJson] <;> first | exact isOrdinary_checkEqual path _ _ | simp
  | path, .array es, .null | path, .array es, .bool _ | path, .array es, .number _
  | path, .array es, .text _ | path, .array es, .object _ => by
    rw [checkJson] <;> first | exact isOrdinary_checkEqual path _ _ | simp
  | path, .null, actual | path, .bool _, actual | path, .number _, actual => by
    rw [checkJson] <;> first | exact isOrdinary_checkEqual path _ _ | simp

theorem isOrdinary_checkFields (h : s.IsOrdinary) : ∀ (path : String)
    (expected actual : List (String × Json)), (s.checkFields path expected actual).IsOrdinary
  | _, [], _ => isOrdinary_pure _
  | path, (key, e) :: es, actual => by
    rw [checkFields]
    split
    · exact isOrdinary_mismatch _
    · exact isOrdinary_bind (isOrdinary_checkJson h _ e _) fun _ =>
        isOrdinary_checkFields h path es actual

theorem isOrdinary_checkItems (h : s.IsOrdinary) : ∀ (path : String) (i : Nat)
    (expected actual : List Json), (s.checkItems path i expected actual).IsOrdinary
  | path, i, e :: es, v :: vs => by
    rw [checkItems]
    exact isOrdinary_bind (isOrdinary_checkJson h _ e v) fun _ =>
      isOrdinary_checkItems h path (i + 1) es vs
  | _, _, [], _ => by rw [checkItems] <;> first | exact isOrdinary_pure _ | simp
  | _, _, _ :: _, [] => by rw [checkItems] <;> first | exact isOrdinary_pure _ | simp
end

theorem isOrdinary_readable (fault : Json.Fault → Mismatch) (document : Except Json.Fault Json) :
    (readable fault document).IsOrdinary := by
  unfold readable
  split
  · exact isOrdinary_pure _
  · exact isOrdinary_mismatch _

/-- Payloads are judged, or compared as documents or as texts. -/
theorem isOrdinary_checkPayload (h : s.IsOrdinary) (type : MessageType)
    (received control : Message) : (s.checkPayload type received control).IsOrdinary := by
  unfold checkPayload
  dsimp only
  split
  · exact isOrdinary_pure _
  · split
    · exact isOrdinary_judge h _ _ _
    · split
      · exact isOrdinary_bind (isOrdinary_readable _ _) fun _ =>
          isOrdinary_bind (isOrdinary_readable _ _) fun _ => isOrdinary_checkJson h _ _ _
      · split
        · exact isOrdinary_pure _
        · exact isOrdinary_mismatch _

theorem isOrdinary_checkHeader (h : s.IsOrdinary) (name : String) (expected actual : Json) :
    (s.checkHeader name expected actual).IsOrdinary := by
  -- a value that is no matcher expression is compared as it stands
  have hcompare : (checkHeader.compare name expected actual).IsOrdinary := by
    unfold checkHeader.compare
    split
    · exact isOrdinary_pure _
    · exact isOrdinary_mismatch _
  unfold checkHeader
  split
  · split
    · exact isOrdinary_judge h _ _ _
    · exact hcompare
  · exact hcompare

/-- Headers are checked one after the other. -/
theorem isOrdinary_checkHeaders (h : s.IsOrdinary) (received : Message)
    (headers : List (String × Json)) : (s.checkHeaders received headers).IsOrdinary := by
  induction headers with
  | nil => exact isOrdinary_pure _
  | cons header rest ih =>
    rw [checkHeaders]
    split
    · exact isOrdinary_bind (isOrdinary_mismatch _) fun _ => ih
    · exact isOrdinary_bind (isOrdinary_checkHeader h _ _ _) fun _ => ih

theorem isOrdinary_checkBlock (h : s.IsOrdinary) (i : Nat) (expected actual : String) :
    (s.checkBlock i expected actual).IsOrdinary := by
  unfold checkBlock
  split
  · exact isOrdinary_judge h _ _ _
  · split
    · exact isOrdinary_pure _
    · exact isOrdinary_mismatch _

theorem isOrdinary_checkBlocks (h : s.IsOrdinary) (i : Nat) (expected actual : List String) :
    (s.checkBlocks i expected actual).IsOrdinary := by
  fun_induction s.checkBlocks i expected actual with
  | case1 i e es b bs ih => exact isOrdinary_bind (isOrdinary_checkBlock h i e b) fun _ => ih
  | case2 => exact isOrdinary_pure _

/-- Validations have ordinary errors only. -/
theorem isOrdinary_validate (h : s.IsOrdinary) (type : MessageType) (received control : Message) :
    (s.validate type received control).IsOrdinary := by
  refine isOrdinary_bind (isOrdinary_checkPayload h type received control) fun _ => ?_
  refine isOrdinary_bind (isOrdinary_checkHeaders h received _) fun _ => ?_
  unfold checkHeaderData
  split
  · exact isOrdinary_mismatch _
  · exact isOrdinary_checkBlocks h 0 _ _

end Rehearsal.Scope

import Rehearsal.Scope
import Rehearsal.Proofs.Call.Tree
import Rehearsal.Proofs.Draw

/-!
# Templates are evaluated from the leaves up

`CallTree.eval` is the value of a call tree, without any reading of texts. Main statement: resolving
the written form of a well-formed tree gives its value, and its error is the first failure that is
met from left to right, whatever texts the variables hold (`resolve_template`).
-/

namespace Rehearsal.CallTree

mutual
/-- The value of a tree. A function is looked up before its arguments are evaluated, and the
arguments are evaluated from left to right. -/
def eval (s : Scope) : CallTree → Draw (List Char)
  | .quoted text => return text
  | .lookup x => do
    let v ← liftM (s.value? (String.ofList x))
    return v.plain.toList
  | .node q n args => do
    let f ← liftM (s.function? (String.ofList q) (String.ofList n))
    let vs ← evalAll s args
    let r ← f (vs.map String.ofList)
    return r.toList

/-- The values of trees, from left to right. -/
def evalAll (s : Scope) : List CallTree → Draw (List (List Char))
  | [] => return []
  | t :: ts => do
    let v ← eval s t
    let vs ← evalAll s ts
    return v :: vs
end

/-- The first failure that is met in a tree from left to right: a variable or a function that is not
known, a failure in an argument behind arguments that have values, or a function that fails on the
values of its arguments. -/
inductive FirstFailure (s : Scope) : Fresh → CallTree → Error → Prop
  | variable {fresh : Fresh} {x : List Char} {e : Error}
      (h : s.value? (String.ofList x) = .error e) : FirstFailure s fresh (.lookup x) e
  | function {fresh : Fresh} {q n : List Char} {args : List CallTree} {e : Error}
      (h : s.function? (String.ofList q) (String.ofList n) = .error e) :
      FirstFailure s fresh (.node q n args) e
  | argument {fresh fresh' : Fresh} {q n : List Char} {f : Function} {vs : List (List Char)}
      {before after : List CallTree} {t : CallTree} {e : Error}
      (hf : s.function? (String.ofList q) (String.ofList n) = .ok f)
      (hb : (evalAll s before).run fresh = .ok (vs, fresh')) (ht : FirstFailure s fresh' t e) :
      FirstFailure s fresh (.node q n (before ++ t :: after)) e
  | application {fresh fresh' : Fresh} {q n : List Char} {f : Function} {vs : List (List Char)}
      {args : List CallTree} {e : Error}
      (hf : s.function? (String.ofList q) (String.ofList n) = .ok f)
      (ha : (evalAll s args).run fresh = .ok (vs, fresh'))
      (hr : (f (vs.map String.ofList)).run fresh' = .error e) :
      FirstFailure s fresh (.node q n args) e

/-! ## Expressions of written trees -/

/-- A written call is read as this call. -/
theorem call?_write {known : String → Bool} {q n : List Char} {args : List CallTree}
    (h : (CallTree.node q n args).WellFormed known) :
    Expression.call? known (CallTree.node q n args).write
      = some ⟨String.ofList q, String.ofList n, args.map argument⟩ := by
  obtain ⟨hq, hn, hk, ha⟩ := h
  rw [Expression.call?, write, Call.parse?_writeCall hq hn, splitArguments_intercalate ha,
    Option.filter_some, if_pos hk]

/-- The name of a variable has no shape of a call. -/
theorem call?_variable {known : String → Bool} {x : List Char} (h : IsVariable x) :
    Expression.call? known x = none := by
  have hx : '(' ∉ x := fun hm => (h.plain _ hm).2.2.2.1 rfl
  rw [Expression.call?, Call.parse?_eq_none_of_not_mem hx, Option.filter_none]

/-- A written placeholder is no call, whatever stands in its braces. -/
theorem call?_placeholder {known : String → Bool} (x : List Char) :
    Expression.call? known (Template.Segment.placeholder x).write = none := by
  have h : Call.parse? (Template.Segment.placeholder x).write = none :=
    Call.parse?_eq_none_of_head (Template.trim_placeholder x) (by decide)
  rw [Expression.call?, h, Option.filter_none]

/-- A variable has no braces to be matched. -/
theorem balanced_of_isVariable {x : List Char} (h : IsVariable x) : Template.Balanced 0 x := by
  have hx : ∀ c ∈ x, c ≠ '{' ∧ c ≠ '}' := fun c hc =>
    ⟨(h.plain c hc).2.1, (h.plain c hc).2.2.1⟩
  rw [← List.append_nil x, Template.balanced_append_of_forall_ne hx]
  rfl

/-- A literal stands for itself. -/
theorem eval_literalSegment (s : Scope) (known : String → Bool) (text : List Char) :
    s.eval (.template ((Template.literalSegment text).map (Expression.ofSegment known)))
      = pure text := by
  cases text <;>
    simp [Template.literalSegment, Expression.ofSegment, Scope.eval, Scope.evalAll]

mutual
/-- An argument that was read evaluates to the value of the tree it was written from. -/
theorem eval_ofArgument (s : Scope) : ∀ (t : CallTree), t.WellFormed s.functions.knows →
    s.eval (.ofArgument s.functions.knows t.argument) = t.eval s
  | .quoted text, h => by
    -- without its quotes the text is read as a template again, and has nothing to replace
    rw [Expression.ofArgument_eq, argument, h.noCall, Expression.ofTemplate_eq,
      Template.split?_of_literal h.noPlaceholder]
    exact eval_literalSegment s _ text
  | .lookup x, h => by
    -- the value is put in after reading, so that its own characters are never read
    have hb := balanced_of_isVariable h
    rw [Expression.ofArgument_eq, argument, write, call?_placeholder, Expression.ofTemplate_eq,
      Template.split?_of_placeholder hb]
    simp [Expression.ofSegment, Expression.ofPlaceholder_eq, call?_variable h, h.trimmed,
      Scope.eval, Scope.evalAll, eval]
  | .node q n args, h => by
    rw [Expression.ofArgument_eq, argument, call?_write h]
    simp only [Scope.eval, eval, List.map_map, evalAll_ofArgument s args h.2.2.2]

/-- Arguments that are written stand for what their trees do. -/
theorem evalAll_ofArgument (s : Scope) : ∀ (ts : List CallTree),
    AllWellFormed s.functions.knows ts →
      s.evalAll (ts.map (Expression.ofArgument s.functions.knows ∘ argument)) = evalAll s ts
  | [], _ => rfl
  | t :: ts, h => by
    rw [List.map_cons, Function.comp_apply, Scope.evalAll, evalAll, eval_ofArgument s t h.1,
      evalAll_ofArgument s ts h.2]
end

/-! ## The first failure -/

/-- Arguments have values if the first one has and the others have after it. -/
theorem run_evalAll_cons_eq_ok {s : Scope} {t : CallTree} {ts : List CallTree} {fresh : Fresh}
    {r : List (List Char) × Fresh} : (evalAll s (t :: ts)).run fresh = .ok r
      ↔ ∃ v fresh' vs fresh'', (t.eval s).run fresh = .ok (v, fresh')
        ∧ (evalAll s ts).run fresh' = .ok (vs, fresh'') ∧ r = (v :: vs, fresh'') := by
  rw [evalAll, Draw.run_bind_eq_ok]
  simp only [Draw.run_bind_eq_ok, Draw.run_pure, Except.ok.injEq, eq_comm (b := r)]
  constructor
  · rintro ⟨v, fresh', hv, vs, fresh'', hvs, rfl⟩
    exact ⟨v, fresh', vs, fresh'', hv, hvs, rfl⟩
  · rintro ⟨v, fresh', vs, fresh'', hv, hvs, rfl⟩
    exact ⟨v, fresh', hv, vs, fresh'', hvs, rfl⟩

/-- They fail with the error of the first one, or of the others after it. -/
theorem run_evalAll_cons_eq_error {s : Scope} {t : CallTree} {ts : List CallTree} {fresh : Fresh}
    {e : Error} : (evalAll s (t :: ts)).run fresh = .error e
      ↔ (t.eval s).run fresh = .error e ∨ ∃ v fresh', (t.eval s).run fresh = .ok (v, fresh')
        ∧ (evalAll s ts).run fresh' = .error e := by
  rw [evalAll, Draw.run_bind_eq_error]
  simp only [Draw.run_bind_eq_error, Draw.run_pure, reduceCtorEq, and_false, exists_false,
    or_false]

mutual
/-- Evaluation fails with the first failure that is met, and with nothing else. -/
theorem eval_eq_error_iff {s : Scope} : ∀ (t : CallTree) (fresh : Fresh) (e : Error),
    (t.eval s).run fresh = .error e ↔ FirstFailure s fresh t e
  | .quoted text, fresh, e => by
    constructor
    · intro h
      rw [eval, Draw.run_pure] at h
      cases h
    · rintro ⟨⟩
  | .lookup x, fresh, e => by
    rw [eval, Draw.run_bind_eq_error, Draw.run_liftM_eq_error]
    simp only [Draw.run_pure, reduceCtorEq, and_false, exists_false, or_false]
    exact ⟨.variable, fun | .variable h => h⟩
  | .node q n args, fresh, e => by
    rw [eval, Draw.run_bind_eq_error, Draw.run_liftM_eq_error]
    simp only [Draw.run_bind_eq_error, Draw.run_liftM_eq_ok, Draw.run_pure, reduceCtorEq,
      and_false, exists_false, or_false]
    constructor
    · rintro (hf | ⟨f, _, ⟨hf, rfl⟩, ha | ⟨vs, fresh', ha, hr⟩⟩)
      · exact .function hf
      · obtain ⟨before, t, after, vs, fresh', rfl, hb, ht⟩ := (evalAll_eq_error_iff args _ e).1 ha
        exact .argument hf hb ht
      · exact .application hf ha hr
    · intro h
      cases h with
      | function h => exact .inl h
      | argument hf hb ht =>
        exact .inr ⟨_, fresh, ⟨hf, rfl⟩,
          .inl ((evalAll_eq_error_iff _ fresh e).2 ⟨_, _, _, _, _, rfl, hb, ht⟩)⟩
      | application hf ha hr => exact .inr ⟨_, fresh, ⟨hf, rfl⟩, .inr ⟨_, _, ha, hr⟩⟩

/-- Of several trees the first one without a value gives the error. -/
theorem evalAll_eq_error_iff {s : Scope} : ∀ (ts : List CallTree) (fresh : Fresh) (e : Error),
    (evalAll s ts).run fresh = .error e ↔ ∃ before t after vs fresh', ts = before ++ t :: after
      ∧ (evalAll s before).run fresh = .ok (vs, fresh') ∧ FirstFailure s fresh' t e
  | [], fresh, e => by
    constructor
    · intro h
      rw [evalAll, Draw.run_pure] at h
      cases h
    · rintro ⟨before, t, after, vs, fresh', h, -⟩
      cases before <;> cases h
  | t :: ts, fresh, e => by
    rw [run_evalAll_cons_eq_error, eval_eq_error_iff t]
    constructor
    · rintro (ht | ⟨v, fresh', hv, hts⟩)
      · exact ⟨[], t, ts, [], fresh, rfl, rfl, ht⟩
      · -- the first tree has a value, and the failure is in one of the others
        obtain ⟨before, u, after, vs, fresh'', rfl, hb, hu⟩ := (evalAll_eq_error_iff ts _ e).1 hts
        exact ⟨t :: before, u, after, v :: vs, fresh'', rfl,
          run_evalAll_cons_eq_ok.2 ⟨v, fresh', vs, fresh'', hv, hb, rfl⟩, hu⟩
    · rintro ⟨before, u, after, vs, fresh', h, hb, hu⟩
      cases before with
      | nil =>
        cases h
        cases hb
        exact .inl hu
      | cons b before =>
        cases h
        obtain ⟨v, fresh₁, vs, _, hv, hvs, hr⟩ := run_evalAll_cons_eq_ok.1 hb
        cases hr
        exact .inr ⟨v, fresh₁, hv, (evalAll_eq_error_iff _ _ e).2
          ⟨before, u, after, vs, fresh', rfl, hvs, hu⟩⟩
end

/-! ## The main statement -/

/-- The template of a tree: its written form as a placeholder. -/
def template (t : CallTree) : String :=
  String.ofList (Template.Segment.placeholder t.write).write

/-- A written call is resolved to the value of its tree. -/
theorem resolveChars_write {s : Scope} {q n : List Char} {args : List CallTree}
    (h : (CallTree.node q n args).WellFormed s.functions.knows) :
    s.resolveChars (Template.Segment.placeholder (CallTree.node q n args).write).write
      = (CallTree.node q n args).eval s := by
  have hb := (balanced_write (.node q n args) h 0 []).2 rfl
  rw [List.append_nil] at hb
  have hcall := eval_ofArgument s (.node q n args) h
  rw [Expression.ofArgument_eq, argument, call?_write h] at hcall
  rw [Scope.resolveChars, Scope.read, Expression.ofTemplate_eq, Template.split?_of_placeholder hb]
  simp [Expression.ofSegment, Expression.ofPlaceholder_eq, call?_write h, Scope.eval,
    Scope.evalAll, ← hcall]

/-- Resolving the template of a well-formed tree of calls evaluates the tree from its leaves up, and
fails with the first failure that is met from left to right. -/
theorem resolve_template (s : Scope) (q n : List Char) (args : List CallTree)
    (h : (CallTree.node q n args).WellFormed s.functions.knows) :
    s.resolve (CallTree.node q n args).template
        = String.ofList <$> (CallTree.node q n args).eval s
      ∧ ∀ (fresh : Fresh) (e : Error),
        (s.resolve (CallTree.node q n args).template).run fresh = .error e
          ↔ FirstFailure s fresh (.node q n args) e := by
  have hr : s.resolve (CallTree.node q n args).template
      = String.ofList <$> (CallTree.node q n args).eval s := by
    rw [Scope.resolve, template, String.toList_ofList, resolveChars_write h, map_eq_pure_bind]
  refine ⟨hr, ?_⟩
  intro fresh e
  rw [hr, map_eq_pure_bind, Draw.run_bind_eq_error, ← eval_eq_error_iff]
  simp only [Draw.run_pure, reduceCtorEq, and_false, exists_false, or_false]

/-- A scope with a function that joins, and a variable whose value looks like a template. -/
def joiningScope : Scope where
  vars := .ofList [("x", .text "', $\x7by\x7d"), ("a,b", .null)]
  functions :=
    [⟨"joiners", "my:", .ofList [("join", fun args => return String.join args)]⟩]

/-- Commas, brackets and blanks in quotes, a comma in the name of a variable, and two levels. -/
def joiningArgs : List CallTree :=
  [.quoted " a, (b".toList, .lookup ['x'],
    .node "my:".toList "join".toList [.quoted ['{', ',', '}'], .lookup ['a', ',', 'b'], .quoted []]]

theorem wellFormed_joining : (CallTree.node "my:".toList "join".toList joiningArgs).WellFormed
    joiningScope.functions.knows := by
  have hq : Call.IsQualifier "my:".toList :=
    ⟨'m', ['y'], by decide, by decide, List.all_eq_true.1 (by decide)⟩
  have hn : Call.IsName "join".toList :=
    ⟨'j', ['o', 'i', 'n'], by decide, by decide, List.all_eq_true.1 (by decide)⟩
  have hk : joiningScope.functions.knows (String.ofList "my:".toList) = true := by decide
  have hblank : IsText joiningScope.functions.knows " a, (b".toList :=
    ⟨by decide, by decide, (rfl : 0 = 0), by decide⟩
  have hbraces : IsText joiningScope.functions.knows ['{', ',', '}'] :=
    ⟨by decide, by decide, (rfl : 0 = 0), by decide⟩
  have hempty : IsText joiningScope.functions.knows [] :=
    ⟨by decide, by decide, (rfl : 0 = 0), by decide⟩
  have hx : IsVariable ['x'] := ⟨by decide, by simp [Call.quote]⟩
  have hab : IsVariable ['a', ',', 'b'] := ⟨by decide, by simp [Call.quote]⟩
  exact ⟨hq, hn, hk, hblank, hx, ⟨hq, hn, hk, hbraces, hab, hempty, trivial⟩, trivial⟩

/-- Brackets, braces and commas in literals and variables do not disturb the call. -/
theorem resolve_template_joining :
    (CallTree.node "my:".toList "join".toList joiningArgs).WellFormed joiningScope.functions.knows
      ∧ (CallTree.node "my:".toList "join".toList joiningArgs).template
        = "$\x7bmy:join(' a, (b', $\x7bx\x7d, my:join('\x7b,\x7d', $\x7ba,b\x7d, ''))\x7d"
      ∧ (joiningScope.resolve
          (CallTree.node "my:".toList "join".toList joiningArgs).template).run {}
        = .ok (" a, (b', $\x7by\x7d\x7b,\x7d", {}) := by
  refine ⟨wellFormed_joining, by decide, ?_⟩
  rw [(resolve_template joiningScope _ _ joiningArgs wellFormed_joining).1]
  rfl

end Rehearsal.CallTree

namespace Rehearsal.Scope

variable {s : Scope}

/-- A placeholder with the name of a variable stands for the text of its value. -/
theorem resolveChars_lookup {x : List Char} (h : CallTree.IsVariable x) :
    s.resolveChars (Template.Segment.placeholder x).write = (do
      let v ← liftM (s.value? (String.ofList x))
      return v.plain.toList) := by
  rw [resolveChars, read, Expression.ofTemplate_eq,
    Template.split?_of_placeholder (CallTree.balanced_of_isVariable h)]
  simp [Expression.ofSegment, Expression.ofPlaceholder_eq, CallTree.call?_variable h, h.trimmed,
    eval, evalAll]

end Rehearsal.Scope

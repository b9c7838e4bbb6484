import Rehearsal.Proofs.Draw
import Rehearsal.Proofs.Template.Balance
import Rehearsal.Scope

/-!
# How deep evaluation nests

Evaluating a template invokes the calls in it, and invoking a call evaluates its arguments, which
are calls or templates again (`resolveChars_eq`, `invoke_eq`). `resolveWithin` does the same with a
limit on how many evaluations may be open inside of each other. Each of them works on a shorter text
than the one around it, and that text is a piece of the template, never of a value. Main statement:
the arguments of a call are together at least five characters shorter than the call, and the body of
a placeholder at least three shorter than the template; so a quarter of the length of a template is
depth enough for it, in every scope (`nesting_bounded`).
-/

namespace Rehearsal

/-! ## Draws with a limit -/

/-- A draw that may reach a limit, and then has neither a value nor an error. -/
abbrev LimitedDraw := StateT Fresh (ExceptT Error Option)

namespace LimitedDraw

variable {α β γ : Type}

/-- The limit is reached. -/
def exhausted : LimitedDraw α := fun _ => ExceptT.mk none

/-- The value or the error, if the limit is not reached. -/
def outcome? (x : LimitedDraw α) (fresh : Fresh) : Option (Except Error (α × Fresh)) :=
  (x.run fresh).run

/-- A draw that reaches no limit. -/
def ofDraw (x : Draw α) : LimitedDraw α := fun fresh => ExceptT.mk (some (x.run fresh))

instance : MonadLift Draw LimitedDraw := ⟨ofDraw⟩

theorem ofDraw_bind (x : Draw α) (f : α → Draw β) :
    ofDraw (x >>= f) = ofDraw x >>= fun a => ofDraw (f a) := by
  funext fresh
  have hbind : (ofDraw x >>= fun a => ofDraw (f a)) fresh = ExceptT.bindCont
      (fun r : α × Fresh => ExceptT.mk (some ((f r.1).run r.2))) (x.run fresh) := rfl
  rw [hbind]
  cases hx : x.run fresh with
  | error e =>
    show some ((x >>= f).run fresh) = some (.error e)
    rw [Draw.run_bind_of_error hx]
  | ok r =>
    show some ((x >>= f).run fresh) = some ((f r.1).run r.2)
    rw [Draw.run_bind_of_ok hx]

/-- Where no part reaches the limit, neither does the whole. -/
theorem mapM_eq_ofDraw {as : List γ} {f : γ → Draw β} {g : γ → LimitedDraw β}
    (h : ∀ a ∈ as, g a = ofDraw (f a)) : as.mapM g = ofDraw (as.mapM f) := by
  induction as with
  | nil => rfl
  | cons a as ih =>
    obtain ⟨ha, has⟩ := List.forall_mem_cons.1 h
    rw [List.mapM_cons, List.mapM_cons, ofDraw_bind, ha, ih has]
    refine congrArg _ (funext fun b => ?_)
    rw [ofDraw_bind]
    rfl

end LimitedDraw

namespace Scope

open Expression

/-! ## One evaluation

What one evaluation does itself, given what is done for the evaluations that it nests.
-/

section Evaluation

variable {m : Type → Type} [Monad m] [MonadLiftT Draw m]

/-- The text of a segment. The body of a placeholder may be a call. -/
def segmentWith (s : Scope) (invoke : Call → m (List Char)) : Template.Segment → m (List Char)
  | .literal text => return text
  | .placeholder body =>
    match call? s.functions.knows body with
    | some c => invoke c
    | none => liftM (s.eval (.lookup (Text.trim body)))

/-- The text of a template. -/
def resolveWith (s : Scope) (invoke : Call → m (List Char)) (t : List Char) : m (List Char) :=
  match Template.split? t with
  | none => liftM (s.eval (.unterminated t))
  | some segments => do
    let ts ← segments.mapM (s.segmentWith invoke)
    return ts.flatten

/-- The text of an argument, which may be a call. -/
def argumentWith (s : Scope) (invoke : Call → m (List Char)) (resolve : List Char → m (List Char))
    (a : List Char) : m (List Char) :=
  match call? s.functions.knows a with
  | some c => invoke c
  | none => resolve a

/-- The text of a call. -/
def invokeWith (s : Scope) (invoke : Call → m (List Char)) (resolve : List Char → m (List Char))
    (c : Call) : m (List Char) := do
  let f ← liftM (liftM (s.function? c.qualifier c.name) : Draw Function)
  let vs ← c.args.mapM (s.argumentWith invoke resolve)
  let r ← liftM (f (vs.map String.ofList))
  return r.toList

end Evaluation

/-- The text of a call. -/
def invoke (s : Scope) (c : Call) : Draw (List Char) :=
  s.eval (.call c.qualifier c.name (c.args.map (ofArgument s.functions.knows)))

theorem evalAll_eq_mapM (s : Scope) (es : List Expression) : s.evalAll es = es.mapM s.eval := by
  induction es with
  | nil => rfl
  | cons e es ih => rw [evalAll, List.mapM_cons, ih]

theorem eval_ofSegment (s : Scope) (segment : Template.Segment) :
    s.eval (ofSegment s.functions.knows segment) = s.segmentWith s.invoke segment := by
  cases segment with
  | literal text => rfl
  | placeholder body =>
    rw [ofSegment, ofPlaceholder_eq, segmentWith]
    cases call? s.functions.knows body <;> rfl

/-- Evaluating a template invokes the calls in it. -/
theorem resolveChars_eq (s : Scope) (t : List Char) :
    s.resolveChars t = s.resolveWith s.invoke t := by
  rw [resolveChars, read, ofTemplate_eq, resolveWith]
  cases Template.split? t with
  | none => rfl
  | some segments =>
    have hsegments : s.eval ∘ ofSegment s.functions.knows = s.segmentWith s.invoke :=
      funext fun segment => s.eval_ofSegment segment
    show s.eval (.template (segments.map (ofSegment s.functions.knows))) = _
    rw [eval, evalAll_eq_mapM, List.mapM_map, hsegments]

theorem eval_ofArgument (s : Scope) (a : List Char) :
    s.eval (ofArgument s.functions.knows a) = s.argumentWith s.invoke s.resolveChars a := by
  rw [ofArgument_eq, argumentWith]
  cases call? s.functions.knows a <;> rfl

/-- Invoking a call invokes the calls among its arguments, and evaluates the others as templates. -/
theorem invoke_eq (s : Scope) (c : Call) :
    s.invoke c = s.invokeWith s.invoke s.resolveChars c := by
  have hargs : s.eval ∘ ofArgument s.functions.knows = s.argumentWith s.invoke s.resolveChars :=
    funext fun a => s.eval_ofArgument a
  rw [invoke, eval, evalAll_eq_mapM, List.mapM_map, hargs]
  rfl

/-! ## Evaluation with a limit -/

mutual
/-- The text of a template, where at most `depth` evaluations may be open inside of this one. -/
def resolveWithin (s : Scope) : (depth : Nat) → List Char → LimitedDraw (List Char)
  | 0 => s.resolveWith fun _ => .exhausted
  | depth + 1 => s.resolveWith (s.invokeWithin depth)

/-- The text of a call, where at most `depth` evaluations may be open inside of this one. -/
def invokeWithin (s : Scope) : (depth : Nat) → Call → LimitedDraw (List Char)
  | 0 => s.invokeWith (fun _ => .exhausted) fun _ => .exhausted
  | depth + 1 => s.invokeWith (s.invokeWithin depth) (s.resolveWithin depth)
end

section Limit

variable {s : Scope} {invoke : Call → Draw (List Char)} {invoke' : Call → LimitedDraw (List Char)}

/-- A template reaches no limit if the calls in it reach none. -/
theorem resolveWith_eq_ofDraw {t : List Char}
    (h : ∀ segments, Template.split? t = some segments → ∀ body, .placeholder body ∈ segments →
      ∀ c, call? s.functions.knows body = some c → invoke' c = .ofDraw (invoke c)) :
    s.resolveWith invoke' t = .ofDraw (s.resolveWith invoke t) := by
  rw [resolveWith, resolveWith]
  cases hs : Template.split? t with
  | none => rfl
  | some segments =>
    have hsegments : ∀ segment ∈ segments,
        s.segmentWith invoke' segment = .ofDraw (s.segmentWith invoke segment) := by
      intro segment hm
      cases segment with
      | literal text => rfl
      | placeholder body =>
        rw [segmentWith, segmentWith]
        cases hc : call? s.functions.knows body with
        | none => rfl
        | some c => exact h segments hs body hm c hc
    show segments.mapM (s.segmentWith invoke') >>= _ = _
    rw [LimitedDraw.mapM_eq_ofDraw hsegments, LimitedDraw.ofDraw_bind]
    rfl

/-- A call reaches no limit if its arguments reach none. -/
theorem invokeWith_eq_ofDraw {resolve : List Char → Draw (List Char)}
    {resolve' : List Char → LimitedDraw (List Char)} {c : Call}
    (h : ∀ a ∈ c.args,
      s.argumentWith invoke' resolve' a = .ofDraw (s.argumentWith invoke resolve a)) :
    s.invokeWith invoke' resolve' c = .ofDraw (s.invokeWith invoke resolve c) := by
  rw [invokeWith, invokeWith, LimitedDraw.ofDraw_bind]
  refine congrArg _ (funext fun f => ?_)
  rw [LimitedDraw.mapM_eq_ofDraw h, LimitedDraw.ofDraw_bind]
  refine congrArg _ (funext fun vs => ?_)
  rw [LimitedDraw.ofDraw_bind]
  rfl

end Limit

/-- Four characters of a text are depth enough for one more evaluation inside of it. -/
theorem within_eq_ofDraw (s : Scope) (depth : Nat) :
    (∀ t : List Char, t.length < 4 * (depth + 1) →
        s.resolveWithin depth t = .ofDraw (s.resolveChars t))
      ∧ ∀ c : Call, (∀ a ∈ c.args, a.length < 4 * depth) →
        s.invokeWithin depth c = .ofDraw (s.invoke c) := by
  induction depth with
  | zero =>
    constructor
    · intro t ht
      rw [resolveChars_eq, resolveWithin]
      apply resolveWith_eq_ofDraw
      intro segments hs body hm c hc
      -- a template with a call in it has at least eight characters
      have := Template.length_of_mem_split? hs hm
      have := Call.length_flatten_of_parse? (Option.filter_eq_some_iff.1 hc).1
      omega
    · intro c hc
      rw [invoke_eq, invokeWithin]
      apply invokeWith_eq_ofDraw
      intro a ha
      have := hc a ha
      omega
  | succ depth ih =>
    obtain ⟨ihresolve, ihinvoke⟩ := ih
    constructor
    · intro t ht
      rw [resolveChars_eq, resolveWithin]
      apply resolveWith_eq_ofDraw
      intro segments hs body hm c hc
      apply ihinvoke
      intro a ha
      have := Template.length_of_mem_split? hs hm
      have := length_of_mem_args hc ha
      omega
    · intro c hc
      rw [invoke_eq, invokeWithin]
      apply invokeWith_eq_ofDraw
      intro a ha
      have hlength := hc a ha
      rw [argumentWith, argumentWith]
      cases hcall : call? s.functions.knows a with
      | none => exact ihresolve a hlength
      | some c' =>
        apply ihinvoke
        intro a' ha'
        have := length_of_mem_args hcall ha'
        omega

/-! ## The main statement -/

/-- The arguments of a call are together at least five characters shorter than the call, and the
body of a placeholder is at least three characters shorter than the template. Evaluations that may
nest a quarter of the length of a template deep, or deeper, come to an end: with such a limit the
template has the value or the error that it has without one. -/
theorem nesting_bounded (s : Scope) :
    (∀ e c, Call.parse? e = some c → c.args.flatten.length + 5 ≤ e.length)
      ∧ (∀ t segments body, Template.split? t = some segments → .placeholder body ∈ segments →
        body.length + 3 ≤ t.length)
      ∧ ∀ (t : List Char) (depth : Nat), t.length / 4 ≤ depth → ∀ fresh,
        (s.resolveWithin depth t).outcome? fresh = some ((s.resolveChars t).run fresh) := by
  refine ⟨?_, ?_, ?_⟩
  · intro e c h
    exact Call.length_flatten_of_parse? h
  · intro t segments body h hm
    exact Template.length_of_mem_split? h hm
  · intro t depth h fresh
    rw [(s.within_eq_ofDraw depth).1 t (by omega)]
    rfl

/-- A scope with a function that joins, and a variable whose value is a template. -/
def selfNaming : Scope where
  vars := .ofList [("x", .text "$\x7bx\x7d")]
  functions := [⟨"joiners", "m:", .ofList [("j", fun args => return String.join args)]⟩]

/-- The value of the variable is put in and not evaluated. Two evaluations are nested in that of the
template, so that a limit of one is too low. -/
theorem nesting_bounded_selfNaming :
    Call.parse? "m:j($\x7bx\x7d)".toList = some ⟨"m:", "j", ["$\x7bx\x7d".toList]⟩
      ∧ ["$\x7bx\x7d".toList].flatten.length + 5 ≤ "m:j($\x7bx\x7d)".toList.length
      ∧ Template.split? "$\x7bm:j($\x7bx\x7d)\x7d".toList
        = some [.placeholder "m:j($\x7bx\x7d)".toList]
      ∧ "m:j($\x7bx\x7d)".toList.length + 3 ≤ "$\x7bm:j($\x7bx\x7d)\x7d".toList.length
      ∧ "$\x7bm:j($\x7bx\x7d)\x7d".toList.length / 4 ≤ 3
      ∧ (selfNaming.resolveWithin 3 "$\x7bm:j($\x7bx\x7d)\x7d".toList).outcome? {}
        = some (.ok ("$\x7bx\x7d".toList, {}))
      ∧ (selfNaming.resolveWithin 1 "$\x7bm:j($\x7bx\x7d)\x7d".toList).outcome? {} = none := by
  have hparse : Call.parse? "m:j($\x7bx\x7d)".toList
      = some ⟨"m:", "j", ["$\x7bx\x7d".toList]⟩ := by decide
  have hcall : call? selfNaming.functions.knows "m:j($\x7bx\x7d)".toList
      = some ⟨"m:", "j", ["$\x7bx\x7d".toList]⟩ := by decide
  have hargument : call? selfNaming.functions.knows "$\x7bx\x7d".toList = none := by decide
  have hname : call? selfNaming.functions.knows ['x'] = none := by decide
  have hbody : Template.Balanced 0 "m:j($\x7bx\x7d)".toList := rfl
  have hsplit : Template.split? "$\x7bm:j($\x7bx\x7d)\x7d".toList
      = some [.placeholder "m:j($\x7bx\x7d)".toList] := Template.split?_of_placeholder hbody
  have hvariable : Template.Balanced 0 ['x'] := rfl
  have hsplit' : Template.split? "$\x7bx\x7d".toList = some [.placeholder ['x']] :=
    Template.split?_of_placeholder hvariable
  have hvalue : (selfNaming.resolveChars "$\x7bm:j($\x7bx\x7d)\x7d".toList).run {}
      = .ok ("$\x7bx\x7d".toList, {}) := by
    simp only [resolveChars_eq, resolveWith, hsplit, List.mapM_cons, List.mapM_nil, segmentWith,
      hcall, invoke_eq, invokeWith, argumentWith, hargument, hsplit', hname]
    rfl
  have hlimit : (selfNaming.resolveWithin 1 "$\x7bm:j($\x7bx\x7d)\x7d".toList).outcome? {}
      = none := by
    simp only [resolveWithin, resolveWith, hsplit, List.mapM_cons, List.mapM_nil, segmentWith,
      hcall, invokeWithin, invokeWith, argumentWith, hargument]
    rfl
  obtain ⟨harguments, hbodies, hdepth⟩ := nesting_bounded selfNaming
  have hquarter : "$\x7bm:j($\x7bx\x7d)\x7d".toList.length / 4 ≤ 3 := by decide
  refine ⟨hparse, harguments _ _ hparse, hsplit, hbodies _ _ _ hsplit List.mem_cons_self, hquarter,
    ?_, hlimit⟩
  rw [hdepth _ 3 hquarter, hvalue]

end Scope
end Rehearsal

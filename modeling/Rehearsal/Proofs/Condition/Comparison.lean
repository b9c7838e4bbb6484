import Rehearsal.Proofs.Call.Composition
import Rehearsal.Proofs.Condition.ByteOrder
import Rehearsal.Proofs.Matcher.Written
import Rehearsal.Proofs.Scope.Append

/-!
# Comparisons of variables

The values of variables are put into a condition before its operator is looked for. The left value
must not bring an operator of its own; the right one may be any text. Main statement: a condition
compares the values of its two variables, as numbers if both are numbers and else in the order of
their bytes, and the operators agree with each other as those of an order do, on values without an
order as well (`holds_variables`).
-/

namespace Rehearsal

namespace Text

theorem strip?_eq_none_of_head {c : Char} {needle cs : List Char} (h : cs.head? ≠ some c) :
    strip? (c :: needle) cs = none := by
  rw [Option.eq_none_iff_forall_ne_some]
  intro r hr
  rw [strip?_eq_some.1 hr] at h
  exact h rfl

end Text

/-- Numbers that change sides change their order, those without an order apart. -/
theorem Double.order_swap (x y : Double) : order y x = (order x y).map Ordering.swap := by
  cases x with
  | nan => cases y <;> rfl
  | infinity s =>
    cases y with
    | nan => rfl
    | infinity t => cases s <;> cases t <;> rfl
    | finite t m q hc => cases s <;> rfl
  | finite s m q hc =>
    cases y with
    | nan => rfl
    | infinity t => cases t <;> rfl
    | finite t m' q' hc' =>
      show some (compare _ _) = some (compare _ _).swap
      rw [← Std.OrientedCmp.eq_swap]

namespace Comparison

/-! ## The leftmost operator -/

/-- A text without the characters that operators are made of, apart from the exclamation mark, which
makes one only together with another of them. -/
def NoOperator (cs : List Char) : Prop := ∀ c ∈ cs, c ≠ '=' ∧ c ≠ '<' ∧ c ≠ '>'

/-- No operator begins with another sign, and the exclamation mark needs a second one. -/
theorem leading?_eq_none {c : Char} {cs : List Char} (h : c ≠ '=' ∧ c ≠ '<' ∧ c ≠ '>')
    (hb : c = '!' → cs.head? ≠ some '=') : leading? (c :: cs) = none := by
  obtain ⟨he, hl, hg⟩ := h
  have hunequal : '!' = c → Text.strip? ['='] cs = none := fun hc =>
    Text.strip?_eq_none_of_head (hb hc.symm)
  simpa [leading?, operators, Text.strip?, he.symm, hl.symm, hg.symm] using hunequal

/-- A written operator is read as itself: nothing behind it makes a longer one. -/
theorem leading?_append {written : List Char} {op : Comparison} (h : (written, op) ∈ operators)
    {cs : List Char} (hcs : cs.head? ≠ some '=') : leading? (written ++ cs) = some (op, cs) := by
  have hlonger : Text.strip? ['='] cs = none := Text.strip?_eq_none_of_head hcs
  have hall : ∀ p ∈ operators, leading? (p.1 ++ cs) = some (p.2, cs) := by
    simp [leading?, operators, Text.strip?, hlonger]
  exact hall _ h

/-- A text is cut at an operator that stands behind a text without any. The exclamation mark must
not be the last character of that text, since it would be read together with what follows. -/
theorem split?_append {a b r : List Char} {op : Comparison} (ha : NoOperator a)
    (hlast : a.getLast? ≠ some '!') (hb : leading? b = some (op, r)) :
    split? (a ++ b) = some (a, op, r) := by
  induction a with
  | nil =>
    cases b with
    | nil => cases hb
    | cons c cs => simp [split?, hb]
  | cons c a ih =>
    obtain ⟨hc, ha⟩ := List.forall_mem_cons.1 ha
    have hnone : leading? (c :: (a ++ b)) = none := by
      refine leading?_eq_none hc ?_
      rintro rfl
      cases a with
      | nil => exact absurd rfl hlast
      | cons d a => simpa using (ha d (by simp)).1
    have hrest : a.getLast? ≠ some '!' := by
      intro h
      have hne : a ≠ [] := by rintro rfl; simp at h
      exact hlast (by rw [List.getLast?_cons, h]; rfl)
    rw [List.cons_append, split?, hnone, ih ha hrest]
    rfl

/-! ## Orders that an operator allows -/

/-- The orders of two values in which a comparison holds of them, none among them. -/
def allowed : Comparison → List (Option Ordering)
  | .equal => [some .eq]
  | .unequal => [some .lt, some .gt, none]
  | .less => [some .lt]
  | .lessOrEqual => [some .lt, some .eq]
  | .greater => [some .gt]
  | .greaterOrEqual => [some .gt, some .eq]

/-- An operator holds of two values in the orders that it allows. -/
theorem holds_eq_decide (op : Comparison) (o : Option Ordering) :
    op.holds o = decide (o ∈ op.allowed) := by
  rcases o with _ | _ | _ | _ <;> cases op <;> rfl

section Laws

variable (o : Option Ordering)

/-- Inequality is what equality is not, also where there is no order. -/
theorem decide_unequal : decide (o ∈ allowed .unequal) = !decide (o ∈ allowed .equal) := by
  rcases o with _ | _ | _ | _ <;> rfl

/-- Less or equal is less, or equal; values without an order are neither. -/
theorem decide_lessOrEqual : decide (o ∈ allowed .lessOrEqual)
    = (decide (o ∈ allowed .less) || decide (o ∈ allowed .equal)) := by
  rcases o with _ | _ | _ | _ <;> rfl

theorem decide_greaterOrEqual : decide (o ∈ allowed .greaterOrEqual)
    = (decide (o ∈ allowed .greater) || decide (o ∈ allowed .equal)) := by
  rcases o with _ | _ | _ | _ <;> rfl

/-- Sides are changed together with the operator. -/
theorem decide_swap :
    decide (o ∈ allowed .less) = decide (o.map Ordering.swap ∈ allowed .greater) := by
  rcases o with _ | _ | _ | _ <;> rfl

end Laws

/-- The order of two operands: that of the numbers that they are written for, or that of their bytes
if one of them is no number. -/
def operandOrder (a b : List Char) : Option Ordering :=
  match Double.read? (String.ofList a), Double.read? (String.ofList b) with
  | some x, some y => Double.order x y
  | _, _ => some (compare (Text.Utf8.encode a) (Text.Utf8.encode b))

/-- Texts are compared by characters, which is the order of their bytes. -/
theorem order_eq_operandOrder (a b : List Char) : order a b = operandOrder a b := by
  rw [order, operandOrder]
  cases Double.read? (String.ofList a) <;> cases Double.read? (String.ofList b) <;>
    simp [Text.Utf8.compare_encode]

/-- Operands that change sides change their order, those without an order apart. -/
theorem operandOrder_swap (a b : List Char) :
    operandOrder b a = (operandOrder a b).map Ordering.swap := by
  rw [operandOrder, operandOrder]
  split
  · next x y hx hy => rw [hx, hy]; exact Double.order_swap y x
  · next h =>
    split
    · next x y hx hy => exact absurd hx (h y x hy)
    · rw [Option.map_some, ← Std.OrientedCmp.eq_swap]

end Comparison

namespace Condition

open Comparison

/-! ## Conditions between two values -/

/-- The characters that operators are made of. -/
def signs : List Char := ['=', '!', '<', '>']

theorem isBlank_sign : ∀ c ∈ signs, Text.isBlank c = false := by
  simp only [signs, List.forall_mem_cons, List.not_mem_nil, false_implies, implies_true, and_true]
  decide

theorem mem_signs {written : List Char} {op : Comparison} (h : (written, op) ∈ operators) :
    written ≠ [] ∧ ∀ c ∈ written, c ∈ signs := by
  have hall : ∀ p ∈ operators, p.1 ≠ [] ∧ ∀ c ∈ p.1, c ∈ signs := by simp [operators, signs]
  exact hall _ h

variable {written l r : List Char} {op : Comparison}

/-- Blanks are taken away on the outside only, since the operator is none. -/
theorem trim_comparison (h : (written, op) ∈ operators) :
    Text.trim (l ++ (' ' :: written ++ [' ']) ++ r)
      = Text.trimLeft (l ++ [' ']) ++ written ++ Text.trimRight (' ' :: r) := by
  obtain ⟨hne, hc⟩ := mem_signs h
  have hsplit : l ++ (' ' :: written ++ [' ']) ++ r = (l ++ [' ']) ++ written ++ (' ' :: r) := by
    simp
  have hblank : ∀ c ∈ written, Text.isBlank c = false := fun c hm => isBlank_sign c (hc c hm)
  rw [hsplit, Text.trim_append hne (fun c hm => hblank c (List.mem_of_mem_head? hm))
    fun c hm => hblank c (List.mem_of_getLast? hm)]

/-- Between blanks an operator is what the text is split at, whatever stands on its right. -/
theorem split?_comparison (h : (written, op) ∈ operators) (hl : NoOperator l) :
    ∃ x y, Text.trim (l ++ (' ' :: written ++ [' ']) ++ r) = x ++ written ++ y
      ∧ split? (Text.trim (l ++ (' ' :: written ++ [' ']) ++ r)) = some (x, op, y)
      ∧ Text.trim x = Text.trim l ∧ Text.trim y = Text.trim r := by
  obtain ⟨left, hleft, -⟩ := Text.exists_trimLeft (l ++ [' '])
  obtain ⟨right, hright, -⟩ := Text.exists_trimRight (' ' :: r)
  have hplain : NoOperator (Text.trimLeft (l ++ [' '])) := by
    intro c hc
    have hm : c ∈ l ++ [' '] := by rw [hleft]; exact List.mem_append_right _ hc
    rcases List.mem_append.1 hm with hm | hm
    · exact hl c hm
    · rw [List.mem_singleton.1 hm]; decide
  -- the blank in front of the operator is still the last character there, if there is any
  have hlast : (Text.trimLeft (l ++ [' '])).getLast? ≠ some '!' := by
    intro h
    have hlast := congrArg List.getLast? hleft
    rw [List.getLast?_concat, List.getLast?_append, h] at hlast
    exact absurd (Option.some.inj hlast) (by decide)
  -- and the blank behind it the first one
  have hhead : (Text.trimRight (' ' :: r)).head? ≠ some '=' := by
    intro h
    have hhead := congrArg List.head? hright
    rw [List.head?_append, h] at hhead
    exact absurd (Option.some.inj hhead) (by decide)
  have hblank : ∀ c ∈ [' '], Text.isBlank c = true := by
    rw [List.forall_mem_singleton]
    decide
  refine ⟨Text.trimLeft (l ++ [' ']), Text.trimRight (' ' :: r), trim_comparison h, ?_, ?_, ?_⟩
  · rw [trim_comparison h, List.append_assoc]
    exact split?_append hplain hlast (leading?_append h hhead)
  · rw [Text.trim_trimLeft, Text.trim_append_blanks hblank]
  · rw [Text.trim_trimRight]
    exact Text.trim_blanks_append hblank r

/-- A text with a character that the other one lacks in either case is not that text. -/
theorem not_equalIgnoringAsciiCase {a b : List Char} {c : Char} (ha : c ∈ a)
    (hb : c.toLower ∉ b.map Char.toLower) : Text.equalIgnoringAsciiCase a b = false := by
  rw [Text.equalIgnoringAsciiCase, beq_eq_false_iff_ne]
  intro h
  exact hb (h ▸ List.mem_map_of_mem ha)

/-- Two values are compared by the operator that is written between them. -/
theorem decide?_comparison (h : (written, op) ∈ operators) (hl : NoOperator l) :
    decide? (l ++ (' ' :: written ++ [' ']) ++ r)
      = .ok (decide (operandOrder (Text.trim l) (Text.trim r) ∈ op.allowed)) := by
  obtain ⟨hne, hc⟩ := mem_signs h
  obtain ⟨c, cs, hcons⟩ := List.exists_cons_of_ne_nil hne
  have hmem : c ∈ Text.trim (l ++ (' ' :: written ++ [' ']) ++ r) := by
    rw [trim_comparison h, hcons]
    simp
  have hsign : c ∈ signs := hc c (by simp [hcons])
  -- the words are made of letters, so that no comparison is one of them
  have htrue : ∀ c ∈ signs, c.toLower ∉ "true".toList.map Char.toLower := by simp [signs]
  have hfalse : ∀ c ∈ signs, c.toLower ∉ "false".toList.map Char.toLower := by simp [signs]
  obtain ⟨x, y, -, hsplit, hx, hy⟩ := split?_comparison (r := r) h hl
  simp only [decide?, not_equalIgnoringAsciiCase hmem (htrue c hsign),
    not_equalIgnoringAsciiCase hmem (hfalse c hsign), hsplit, hx, hy, holds_eq_decide,
    order_eq_operandOrder]
  rfl

/-- The condition that compares two variables. -/
def ofVariables (a written b : List Char) : String :=
  String.ofList ((Template.Segment.placeholder a).write ++ (' ' :: written ++ [' '])
    ++ (Template.Segment.placeholder b).write)

end Condition

namespace Scope

open Comparison Condition

variable {s : Scope} {a b : List Char} {l r : Json}

/-- Variables are put in before their condition is read. -/
theorem resolveChars_ofVariables (ha : CallTree.IsVariable a) (hb : CallTree.IsVariable b)
    (hl : s.value? (String.ofList a) = .ok l) (hr : s.value? (String.ofList b) = .ok r)
    {written : List Char} {op : Comparison} (h : (written, op) ∈ operators) :
    s.resolveChars (ofVariables a written b).toList
      = pure (l.plain.toList ++ (' ' :: written ++ [' ']) ++ r.plain.toList) := by
  have hinert : Template.IsInert (' ' :: written ++ [' ']) := by
    have hsigns : Template.IsInert signs := by simp [signs]
    have hwritten : Template.IsInert written := fun c hc => hsigns c ((mem_signs h).2 c hc)
    simpa using hwritten
  have hsome : ∀ {x}, CallTree.IsVariable x →
      (Template.split? (Template.Segment.placeholder x).write).isSome := fun hx =>
    Template.isSome_split?_placeholder (CallTree.balanced_of_isVariable hx)
  have hleft : (Template.split?
      ((Template.Segment.placeholder a).write ++ (' ' :: written ++ [' ']))).isSome := by
    rw [Template.isSome_split?_append_inert hinert]
    exact hsome ha
  have hapart : Template.Apart ((Template.Segment.placeholder a).write ++ (' ' :: written ++ [' ']))
      (Template.Segment.placeholder b).write :=
    fun hab => absurd hab.2 (by simp [Template.Segment.write])
  rw [ofVariables, String.toList_ofList, resolveChars_append hleft (hsome hb) hapart,
    resolveChars_append_inert hinert (hsome ha), resolveChars_lookup ha, resolveChars_lookup hb,
    hl, hr]
  rfl

/-- A condition between two variables holds if the operator allows the order of their values. -/
theorem holds_ofVariables (ha : CallTree.IsVariable a) (hb : CallTree.IsVariable b)
    (hl : s.value? (String.ofList a) = .ok l) (hr : s.value? (String.ofList b) = .ok r)
    (hplain : NoOperator l.plain.toList) {written : List Char} {op : Comparison}
    (h : (written, op) ∈ operators) : s.holds (ofVariables a written b)
      = pure (decide (operandOrder (Text.trim l.plain.toList) (Text.trim r.plain.toList)
        ∈ op.allowed)) := by
  rw [holds, resolveChars_ofVariables ha hb hl hr h, pure_bind, decide?_comparison h hplain]
  rfl

/-- A condition between two variables, the left one without operators, is split at the operator that
is written there and compares the two trimmed values. So inequality is the negation of equality, a
double sign of equality is a single one, the operators that allow equality hold if equality or their
strict form does, and values that have no operators on either side may change sides. -/
theorem holds_variables (s : Scope) {a b : List Char} (ha : CallTree.IsVariable a)
    (hb : CallTree.IsVariable b) {l r : Json} (hl : s.value? (String.ofList a) = .ok l)
    (hr : s.value? (String.ofList b) = .ok r) (hplain : NoOperator l.plain.toList) :
    (∀ written op, (written, op) ∈ operators →
      (∃ text x y, s.resolveChars (ofVariables a written b).toList = pure text
        ∧ Text.trim text = x ++ written ++ y ∧ split? (Text.trim text) = some (x, op, y)
        ∧ Text.trim x = Text.trim l.plain.toList ∧ Text.trim y = Text.trim r.plain.toList)
      ∧ s.holds (ofVariables a written b) = pure (decide (operandOrder (Text.trim l.plain.toList)
        (Text.trim r.plain.toList) ∈ op.allowed)))
    ∧ s.holds (ofVariables a ['!', '='] b) = not <$> s.holds (ofVariables a ['='] b)
    ∧ s.holds (ofVariables a ['=', '='] b) = s.holds (ofVariables a ['='] b)
    ∧ s.holds (ofVariables a ['<', '='] b) = (do
      return (← s.holds (ofVariables a ['<'] b)) || (← s.holds (ofVariables a ['='] b)))
    ∧ s.holds (ofVariables a ['>', '='] b) = (do
      return (← s.holds (ofVariables a ['>'] b)) || (← s.holds (ofVariables a ['='] b)))
    ∧ (NoOperator r.plain.toList →
      s.holds (ofVariables a ['<'] b) = s.holds (ofVariables b ['>'] a)) := by
  have hholds : ∀ written op, (written, op) ∈ operators → s.holds (ofVariables a written b)
      = pure (decide (operandOrder (Text.trim l.plain.toList) (Text.trim r.plain.toList)
        ∈ op.allowed)) := fun _ _ h => holds_ofVariables ha hb hl hr hplain h
  have hequal := hholds ['='] .equal (by simp [operators])
  have hless := hholds ['<'] .less (by simp [operators])
  have hgreater := hholds ['>'] .greater (by simp [operators])
  refine ⟨?_, ?_, ?_, ?_, ?_, ?_⟩
  · intro written op h
    obtain ⟨x, y, hsplit⟩ := split?_comparison (r := r.plain.toList) h hplain
    exact ⟨⟨_, x, y, resolveChars_ofVariables ha hb hl hr h, hsplit⟩, hholds written op h⟩
  · rw [hholds _ .unequal (by simp [operators]), hequal, map_pure, decide_unequal]
  · rw [hholds _ .equal (by simp [operators]), hequal]
  · rw [hholds _ .lessOrEqual (by simp [operators]), hless, hequal, decide_lessOrEqual]
    rfl
  · rw [hholds _ .greaterOrEqual (by simp [operators]), hgreater, hequal, decide_greaterOrEqual]
    rfl
  · intro hright
    have hmem : (['>'], Comparison.greater) ∈ operators := by simp [operators]
    rw [hless, holds_ofVariables hb ha hr hl hright hmem,
      operandOrder_swap (Text.trim l.plain.toList), decide_swap]

/-- A text with blanks and an exclamation mark, and one that has an operator of its own. -/
def valuesScope : Scope where
  vars := .ofList [("l", .text " a! "), ("r", .text "b>=c")]

/-- The operator in the value on the right is not taken for that of the condition. -/
theorem holds_variables_values :
    CallTree.IsVariable ['l'] ∧ CallTree.IsVariable ['r']
      ∧ valuesScope.value? (String.ofList ['l']) = .ok (.text " a! ")
      ∧ valuesScope.value? (String.ofList ['r']) = .ok (.text "b>=c")
      ∧ NoOperator (Json.text " a! ").plain.toList
      ∧ ofVariables ['l'] ['<'] ['r'] = "$\x7bl\x7d < $\x7br\x7d"
      ∧ valuesScope.holds "$\x7bl\x7d < $\x7br\x7d" = pure true := by
  have ha : CallTree.IsVariable ['l'] := ⟨by decide, by simp [Call.quote]⟩
  have hb : CallTree.IsVariable ['r'] := ⟨by decide, by simp [Call.quote]⟩
  have hl : valuesScope.value? (String.ofList ['l']) = .ok (.text " a! ") := by rfl
  have hr : valuesScope.value? (String.ofList ['r']) = .ok (.text "b>=c") := by rfl
  have hplain : NoOperator (Json.text " a! ").plain.toList := by simp [NoOperator, Json.plain]
  have hwritten : ofVariables ['l'] ['<'] ['r'] = "$\x7bl\x7d < $\x7br\x7d" := by decide
  refine ⟨ha, hb, hl, hr, hplain, hwritten, ?_⟩
  have hholds := ((holds_variables valuesScope ha hb hl hr hplain).1 ['<'] .less
    (by simp [operators])).2
  have horder : operandOrder (Text.trim (Json.text " a! ").plain.toList)
      (Text.trim (Json.text "b>=c").plain.toList) = some .lt := by decide
  rw [← hwritten, hholds, horder]
  rfl

end Scope
end Rehearsal

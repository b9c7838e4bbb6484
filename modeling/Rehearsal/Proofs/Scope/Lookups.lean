import Rehearsal.Function.Standard
import Rehearsal.Proofs.Call.Read
import Rehearsal.Proofs.Matcher.Arguments
import Rehearsal.Proofs.Template.Canonical

/-!
# The variables that a template looks up

The expression of a template says which variables it looks up, before any variable has a value. Each
of their names is a connected piece of the template's own text, at any depth of nested calls
(`infix_of_mem_lookups`), and the text of an expression hangs on the functions and on these
variables only (`eval_congr`). Main statement: a variable whose name does not stand in a template
has no influence on what the template stands for, whatever the variables hold that do stand in it
(`resolve_eq_of_not_infix`).
-/

namespace Rehearsal

/-! ## Pieces of texts -/

theorem Text.trim_infix (cs : List Char) : trim cs <:+: cs := by
  obtain ⟨left, right, h, -, -⟩ := exists_trim cs
  exact ⟨left, right, h.symm⟩

namespace Call

/-- A part of a list is in the list. -/
theorem infix_intercalate {p : List Char} {ps : List (List Char)} (h : p ∈ ps) :
    p <:+: [','].intercalate ps := by
  induction ps with
  | nil => cases h
  | cons q qs ih =>
    cases qs with
    | nil =>
      obtain rfl := List.mem_singleton.1 h
      have hone : [','].intercalate [p] = p := List.intercalate_singleton
      exact hone.symm ▸ List.infix_refl p
    | cons r rs =>
      rw [List.intercalate_cons_cons, List.append_assoc]
      rcases List.mem_cons.1 h with rfl | h
      · exact (List.prefix_append p _).isInfix
      · exact ((ih h).trans (List.suffix_append _ _).isInfix).trans
          (List.suffix_append q _).isInfix

/-- An argument is a piece of the list that it stands in. -/
theorem infix_of_mem_splitArguments {raw a : List Char} (h : a ∈ splitArguments raw) :
    a <:+: raw := by
  obtain ⟨-, hnil⟩ | ⟨p, ps, hpieces, -, hargs⟩ := Matcher.splitArguments_cases raw
  · rw [hnil] at h
    cases h
  · rw [hargs] at h
    obtain ⟨piece, hpiece, rfl⟩ := List.mem_map.1 h
    obtain ⟨left, right, hcontent, -, -⟩ := exists_content piece
    have hraw : piece <:+: [','].intercalate (p :: ps) := infix_intercalate hpiece
    rw [← hpieces, intercalate_pieces] at hraw
    exact List.IsInfix.trans ⟨left, right, hcontent.symm⟩ hraw

/-- What stands in parentheses is in the text. -/
theorem infix_of_readParenthesized? {cs raw : List Char} (h : readParenthesized? cs = some raw) :
    raw <:+: cs := by
  unfold readParenthesized? at h
  split at h
  · next r =>
    split at h
    · cases h
      exact (List.dropLast_prefix r).isInfix.trans (List.suffix_cons '(' r).isInfix
    · cases h
  · cases h

/-- An argument is a piece of the call that it stands in. -/
theorem infix_of_mem_args {cs a : List Char} {c : Call} (h : parse? cs = some c)
    (ha : a ∈ c.args) : a <:+: cs := by
  simp only [parse?, Option.bind_eq_bind, Option.bind_eq_some_iff, Prod.exists] at h
  obtain ⟨q, r, hq, n, r', hn, raw, hraw, hc⟩ := h
  cases hc
  have hrest : r' <:+: Text.trim cs := by
    rw [eq_append_of_readQualifier? hq, eq_append_of_readName? hn, ← List.append_assoc]
    exact (List.suffix_append (q ++ n) r').isInfix
  exact (infix_of_mem_splitArguments ha).trans
    ((infix_of_readParenthesized? hraw).trans (hrest.trans (Text.trim_infix cs)))

end Call

/-- The body of a placeholder is a piece of the template that it stands in. -/
theorem Template.infix_of_mem_split? {cs body : List Char} {segments : List Segment}
    (h : split? cs = some segments) (hm : .placeholder body ∈ segments) : body <:+: cs := by
  have hbody : body <:+: (Segment.placeholder body).write := ⟨['$', '{'], ['}'], rfl⟩
  rw [← write_of_split? h]
  exact hbody.trans (List.infix_of_mem_flatten (List.mem_map_of_mem hm))

/-! ## Names that are looked up -/

namespace Expression

mutual
/-- The names of the variables that an expression looks up, from left to right. -/
def lookups : Expression → List (List Char)
  | .lookup name => [name]
  | .call _ _ args => lookupsOfAll args
  | .template parts => lookupsOfAll parts
  | _ => []

/-- The names that are looked up for some expressions, in order. -/
def lookupsOfAll : List Expression → List (List Char)
  | [] => []
  | e :: es => lookups e ++ lookupsOfAll es
end

theorem mem_lookupsOfAll {name : List Char} {es : List Expression} :
    name ∈ lookupsOfAll es ↔ ∃ e ∈ es, name ∈ lookups e := by
  induction es with
  | nil => simp [lookupsOfAll]
  | cons e es ih => simp [lookupsOfAll, ih]

variable {known : String → Bool}

/-- An argument of a call is in the text of the call. -/
theorem infix_of_mem_call? {cs a : List Char} {c : Call} (h : call? known cs = some c)
    (ha : a ∈ c.args) : a <:+: cs :=
  Call.infix_of_mem_args (Option.filter_eq_some_iff.1 h).1 ha

mutual
/-- Every name that a template looks up is a piece of the template. -/
theorem infix_of_mem_lookups (cs : List Char) :
    ∀ name ∈ lookups (ofTemplate known cs), name <:+: cs := by
  intro name hname
  rw [ofTemplate_eq] at hname
  cases hs : Template.split? cs with
  | none =>
    rw [hs] at hname
    cases hname
  | some segments =>
    rw [hs] at hname
    obtain ⟨e, he, hname⟩ := mem_lookupsOfAll.1 hname
    obtain ⟨segment, hm, rfl⟩ := List.mem_map.1 he
    cases segment with
    | literal text => cases hname
    | placeholder body =>
      have hlt := Template.length_of_mem_split? hs hm
      exact (infix_of_mem_lookups_placeholder body name hname).trans
        (Template.infix_of_mem_split? hs hm)
termination_by (cs.length, 0)

/-- What is looked up for a placeholder is in its text: a name as it stands, or one in an argument.
-/
theorem infix_of_mem_lookups_placeholder (body : List Char) :
    ∀ name ∈ lookups (ofPlaceholder known body), name <:+: body := by
  intro name hname
  rw [ofPlaceholder_eq] at hname
  cases hc : call? known body with
  | none =>
    rw [hc] at hname
    obtain rfl := List.mem_singleton.1 hname
    exact Text.trim_infix body
  | some c =>
    rw [hc] at hname
    obtain ⟨e, he, hname⟩ := mem_lookupsOfAll.1 hname
    obtain ⟨a, ha, rfl⟩ := List.mem_map.1 he
    have hlt := length_of_mem_args hc ha
    exact (infix_of_mem_lookups_argument a name hname).trans (infix_of_mem_call? hc ha)
termination_by (body.length, 1)

/-- What is looked up for an argument is in the argument. -/
theorem infix_of_mem_lookups_argument (arg : List Char) :
    ∀ name ∈ lookups (ofArgument known arg), name <:+: arg := by
  intro name hname
  rw [ofArgument_eq] at hname
  cases hc : call? known arg with
  | none =>
    rw [hc] at hname
    exact infix_of_mem_lookups arg name hname
  | some c =>
    rw [hc] at hname
    obtain ⟨e, he, hname⟩ := mem_lookupsOfAll.1 hname
    obtain ⟨a, ha, rfl⟩ := List.mem_map.1 he
    have hlt := length_of_mem_args hc ha
    exact (infix_of_mem_lookups_argument a name hname).trans (infix_of_mem_call? hc ha)
termination_by (arg.length, 1)
end

end Expression

/-! ## What a text hangs on -/

namespace Scope

open Expression

variable {s s' : Scope}

mutual
/-- An expression has the same text in scopes with the same functions that agree on the variables
that it looks up. -/
theorem eval_congr (hf : s.functions = s'.functions) : ∀ (e : Expression),
    (∀ name ∈ lookups e, s.value? (String.ofList name) = s'.value? (String.ofList name)) →
      s.eval e = s'.eval e
  | .literal t, _ => rfl
  | .lookup name, h => by rw [eval, eval, h name (List.mem_singleton_self name)]
  | .unterminated t, _ => rfl
  | .template parts, h => by rw [eval, eval, evalAll_congr hf parts h]
  | .call qualifier name args, h => by
    have hfunction : s.function? qualifier name = s'.function? qualifier name := by
      rw [function?, function?, hf]
    rw [eval, eval, evalAll_congr hf args h, hfunction]

/-- Expressions have the same values where all that they look up is the same. -/
theorem evalAll_congr (hf : s.functions = s'.functions) : ∀ (es : List Expression),
    (∀ name ∈ lookupsOfAll es, s.value? (String.ofList name) = s'.value? (String.ofList name)) →
      s.evalAll es = s'.evalAll es
  | [], _ => rfl
  | e :: es, h => by
    have he := eval_congr hf e fun name hn => h name (List.mem_append_left _ hn)
    have hes := evalAll_congr hf es fun name hn => h name (List.mem_append_right _ hn)
    rw [evalAll, evalAll, he, hes]
end

/-- A variable whose name does not stand in a template has no influence on it: in scopes with the
same functions that agree on all other variables, the template has the same text, the same error and
takes the same random numbers. -/
theorem resolve_eq_of_not_infix {s s' : Scope} {template x : String}
    (hx : ¬x.toList <:+: template.toList) (hf : s.functions = s'.functions)
    (hv : ∀ y, y ≠ x → s.vars.get? y = s'.vars.get? y) :
    s.resolve template = s'.resolve template := by
  have hread : s'.read template.toList = s.read template.toList := by rw [read, read, hf]
  rw [resolve, resolve, resolveChars, resolveChars, hread]
  rw [eval_congr hf]
  intro name hname
  have hne : String.ofList name ≠ x := by
    rintro rfl
    rw [String.toList_ofList] at hx
    exact hx (infix_of_mem_lookups _ name hname)
  rw [value?, value?, hv _ hne]

/-- The value of `x` has the shape of a placeholder. -/
def tempting : Scope where
  vars := .ofList [("x", .text "$\x7by\x7d")]
  functions := [Function.standard]

/-- A value that looks like a placeholder is not looked into. -/
theorem resolve_eq_of_not_infix_tempting :
    ¬"y".toList <:+: "$\x7bcourier:concat('a', $\x7bx\x7d)\x7d".toList
      ∧ (∀ z, z ≠ "y" → tempting.vars.get? z = (tempting.bind "y" .null).vars.get? z)
      ∧ tempting.resolve "$\x7bcourier:concat('a', $\x7bx\x7d)\x7d"
        = (tempting.bind "y" .null).resolve "$\x7bcourier:concat('a', $\x7bx\x7d)\x7d" := by
  have hy : 'y' ∉ "$\x7bcourier:concat('a', $\x7bx\x7d)\x7d".toList := by decide
  have hx : ¬"y".toList <:+: "$\x7bcourier:concat('a', $\x7bx\x7d)\x7d".toList :=
    fun h => hy (h.subset (by decide))
  have hv : ∀ z, z ≠ "y" → tempting.vars.get? z = (tempting.bind "y" .null).vars.get? z := by
    intro z hz
    rw [bind, Assoc.get?_insert, if_neg (Ne.symm hz)]
  exact ⟨hx, hv, resolve_eq_of_not_infix hx rfl hv⟩

end Scope
end Rehearsal

import Rehearsal.Proofs.Scope.Purity
import Rehearsal.Proofs.Template.Append

/-!
# Texts of templates one behind the other

The text of a template that is made of two others is made of their texts, in the same order and with
the same random numbers, as long as the placeholders of each are closed in it
(`resolveChars_append`). A text without dollar signs and braces that stands around a template stands
around its text as it is (`run_resolveChars_frame`).
-/

namespace Rehearsal.Scope

open Template

variable (s : Scope)

/-- Expressions take their random numbers in order, so that they can be cut anywhere. -/
theorem evalAll_append (es fs : List Expression) : s.evalAll (es ++ fs) = (do
    let xs ← s.evalAll es
    let ys ← s.evalAll fs
    return xs ++ ys) := by
  induction es with
  | nil => simp [evalAll]
  | cons e es ih => simp [evalAll, ih]

/-- So can the segments of a template. -/
theorem eval_template_append (es fs : List Expression) : s.eval (.template (es ++ fs)) = (do
    let x ← s.eval (.template es)
    let y ← s.eval (.template fs)
    return x ++ y) := by
  simp [eval, evalAll_append]

/-- Two literals give the same text as the one literal that they make. -/
theorem eval_join (known : String → Bool) (ss ts : List Segment) :
    s.eval (.template ((join ss ts).map (Expression.ofSegment known)))
      = s.eval (.template ((ss ++ ts).map (Expression.ofSegment known))) := by
  fun_induction join ss ts with
  | case1 ts => rfl
  | case2 a b ts => simp [Expression.ofSegment, eval, evalAll]
  | case3 x ss ts _ ih =>
    -- what stands behind the first segment has the same text
    have hcons : ∀ e es, s.eval (.template (e :: es)) = (do
        let x ← s.eval (.template [e])
        let y ← s.eval (.template es)
        return x ++ y) := fun e es => s.eval_template_append [e] es
    rw [List.map_cons, List.cons_append, List.map_cons, hcons, hcons _ (List.map _ _), ih]

variable {s}

theorem resolveChars_of_split? {cs : List Char} {segments : List Segment}
    (h : split? cs = some segments) : s.resolveChars cs
      = s.eval (.template (segments.map (Expression.ofSegment s.functions.knows))) := by
  rw [resolveChars, read, Expression.ofTemplate_eq, h]

/-- A text that is no template is an error as a whole. -/
theorem resolveChars_of_split?_eq_none {cs : List Char} (h : split? cs = none) :
    s.resolveChars cs = throw (.expression (.unterminated (String.ofList cs))) := by
  rw [resolveChars, read, Expression.ofTemplate_eq, h, eval]

/-- A template that stands for a text has all of its placeholders closed. -/
theorem isSome_split?_of_run_resolveChars {cs : List Char} {fresh : Fresh}
    {r : List Char × Fresh} (h : (s.resolveChars cs).run fresh = .ok r) : (split? cs).isSome := by
  cases hs : split? cs with
  | some segments => rfl
  | none => rw [resolveChars_of_split?_eq_none hs] at h; cases h

/-- The text of a template that is made of two others. -/
theorem resolveChars_append {a b : List Char} (ha : (split? a).isSome) (hb : (split? b).isSome)
    (hab : Apart a b) : s.resolveChars (a ++ b) = (do
      let x ← s.resolveChars a
      let y ← s.resolveChars b
      return x ++ y) := by
  obtain ⟨ss, hss⟩ := Option.isSome_iff_exists.1 ha
  obtain ⟨ts, hts⟩ := Option.isSome_iff_exists.1 hb
  have hsplit : split? (a ++ b) = some (join ss ts) := by rw [split?_append hss hab, hts]; rfl
  rw [resolveChars_of_split? hsplit, eval_join, List.map_append, eval_template_append,
    resolveChars_of_split? hss, resolveChars_of_split? hts]

/-! ## Inert texts -/

theorem resolveChars_of_inert {cs : List Char} (h : IsInert cs) :
    s.resolveChars cs = pure cs := s.resolveChars_of_plain h.contains_opening

/-- A text without dollar signs and braces in front is put in front of the result. -/
theorem resolveChars_inert_append {left cs : List Char} (hl : IsInert left)
    (h : (split? cs).isSome) : s.resolveChars (left ++ cs) = (do
      let t ← s.resolveChars cs
      return left ++ t) := by
  have hleft : (split? left).isSome := by rw [hl.split?]; rfl
  rw [resolveChars_append hleft h (hl.apart_left cs), resolveChars_of_inert hl, pure_bind]

/-- And behind the result if it stands behind. -/
theorem resolveChars_append_inert {right cs : List Char} (hr : IsInert right)
    (h : (split? cs).isSome) : s.resolveChars (cs ++ right) = (do
      let t ← s.resolveChars cs
      return t ++ right) := by
  have hright : (split? right).isSome := by rw [hr.split?]; rfl
  rw [resolveChars_append h hright (hr.apart_right cs), resolveChars_of_inert hr]
  simp

/-- What stands around a template stands around its text, and gives a text only if it does. -/
theorem run_resolveChars_frame {left right cs t : List Char} (hl : IsInert left)
    (hr : IsInert right) {fresh fresh' : Fresh} :
    (s.resolveChars (left ++ cs ++ right)).run fresh = .ok (t, fresh')
      ↔ ∃ u, (s.resolveChars cs).run fresh = .ok (u, fresh') ∧ t = left ++ u ++ right := by
  have hframe : (split? cs).isSome → s.resolveChars (left ++ cs ++ right) = (do
      let u ← s.resolveChars cs
      return left ++ u ++ right) := fun h => by
    have hleft : (split? (left ++ cs)).isSome := by rw [isSome_split?_inert_append hl, h]
    rw [resolveChars_append_inert hr hleft, resolveChars_inert_append hl h]
    simp
  constructor
  · intro h
    have hcs : (split? cs).isSome := by
      rw [← isSome_split?_inert_append hl, ← isSome_split?_append_inert hr]
      exact isSome_split?_of_run_resolveChars h
    rw [hframe hcs] at h
    obtain ⟨u, fresh'', hu, he⟩ := Draw.run_bind_eq_ok.1 h
    cases he
    exact ⟨u, hu, rfl⟩
  · rintro ⟨u, hu, rfl⟩
    rw [hframe (isSome_split?_of_run_resolveChars hu), Draw.run_bind_of_ok hu]
    rfl

/-! ## Lists -/

theorem isInert_comma : IsInert [','] := by simp

/-- Templates with commas between them are a template. -/
theorem isSome_split?_intercalate {p : List Char} {ps : List (List Char)}
    (h : ∀ q ∈ p :: ps, (split? q).isSome) : (split? ([','].intercalate (p :: ps))).isSome := by
  induction ps generalizing p with
  | nil => simpa using h
  | cons q ps ih =>
    obtain ⟨hp, hps⟩ := List.forall_mem_cons.1 h
    obtain ⟨ss, hss⟩ := Option.isSome_iff_exists.1 hp
    have hapart : Apart p ([','] ++ [','].intercalate (q :: ps)) :=
      fun hab => absurd hab.2 (by simp)
    rw [List.intercalate_cons_cons, List.append_assoc, split?_append hss hapart, Option.isSome_map,
      isSome_split?_inert_append isInert_comma]
    exact ih hps

/-- The text of a list of templates is the list of their texts. -/
theorem resolveChars_intercalate {p : List Char} {ps : List (List Char)}
    (h : ∀ q ∈ p :: ps, (split? q).isSome) : s.resolveChars ([','].intercalate (p :: ps)) = (do
      let ts ← (p :: ps).mapM s.resolveChars
      return [','].intercalate ts) := by
  induction ps generalizing p with
  | nil => simp
  | cons q ps ih =>
    obtain ⟨hp, hps⟩ := List.forall_mem_cons.1 h
    have hcomma : (split? (p ++ [','])).isSome := by
      rw [isSome_split?_append_inert isInert_comma, hp]
    have hapart : Apart (p ++ [',']) ([','].intercalate (q :: ps)) := by
      rintro ⟨hlast, -⟩
      rw [List.getLast?_concat] at hlast
      exact absurd hlast (by decide)
    rw [List.intercalate_cons_cons, resolveChars_append hcomma (isSome_split?_intercalate hps)
      hapart, resolveChars_append_inert isInert_comma hp, ih hps]
    simp [List.mapM_cons, List.intercalate_cons_cons]

end Rehearsal.Scope

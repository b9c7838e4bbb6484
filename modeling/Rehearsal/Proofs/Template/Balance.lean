import Rehearsal.Template
import Rehearsal.Text.Blank

/-!
# Balanced bodies

A placeholder ends at the first brace that closes more than its body has opened. The text in front
of that brace is balanced, and every balanced text is found again when it stands in front of a
closing brace: `closing?_eq_some_iff`. A balanced text may be put in front of any other one without
a difference to the braces behind it (`balanced_append`).
-/

namespace Rehearsal.Template

/-! ## Depth under characters -/

/-- A character that is no brace leaves the number of open braces as it is. -/
theorem balanced_cons_of_ne {depth : Nat} {c : Char} {cs : List Char} (ho : c ≠ '{')
    (hc : c ≠ '}') : Balanced depth (c :: cs) ↔ Balanced depth cs := by
  rw [Balanced.eq_5]
  · exact fun h => ho h
  · exact fun h => hc h

/-- A text without braces leaves the number of open braces as it is. -/
theorem balanced_append_of_forall_ne {depth : Nat} {a b : List Char}
    (h : ∀ c ∈ a, c ≠ '{' ∧ c ≠ '}') : Balanced depth (a ++ b) ↔ Balanced depth b := by
  induction a with
  | nil => rfl
  | cons c a ih =>
    have hc := h c (by simp)
    rw [List.cons_append, balanced_cons_of_ne hc.1 hc.2]
    exact ih fun x hx => h x (by simp [hx])

/-- A balanced text closes the braces that were open and no others. -/
theorem balanced_append {depth : Nat} {a : List Char} (h : Balanced depth a) (above : Nat)
    (b : List Char) : Balanced (depth + above) (a ++ b) ↔ Balanced above b := by
  fun_induction Balanced depth a with
  | case1 depth =>
    subst h
    rw [Nat.zero_add, List.nil_append]
  | case2 depth r ih =>
    -- an opening brace: the braces above are counted on top of one more
    have := ih h
    rw [Nat.add_right_comm] at this
    exact this
  | case3 r => exact h.elim
  | case4 r depth ih =>
    rw [Nat.succ_add]
    exact ih h
  | case5 depth c r ho hc ih =>
    rw [List.cons_append, balanced_cons_of_ne ho hc]
    exact ih h

/-! ## The closing brace -/

/-- A balanced text ends at the closing brace behind it. -/
theorem closing?_of_balanced {depth : Nat} {body : List Char} (h : Balanced depth body)
    (rest : List Char) : closing? depth (body ++ '}' :: rest) = some (body, rest) := by
  fun_induction Balanced depth body with
  | case1 depth =>
    subst h
    rfl
  | case2 depth r ih => simp [closing?, ih h]
  | case3 r => exact h.elim
  | case4 r depth ih => simp [closing?, ih h]
  | case5 depth c r ho hc ih =>
    rw [List.cons_append, closing?.eq_5]
    · simp [ih h]
    · exact fun h => ho h
    · exact fun h => hc h

/-- What stands in front of the closing brace is balanced. -/
theorem balanced_of_closing? {depth : Nat} {cs body rest : List Char}
    (h : closing? depth cs = some (body, rest)) : Balanced depth body := by
  fun_induction closing? depth cs generalizing body with
  | case1 => simp at h
  | case2 d r ih =>
    obtain ⟨⟨a, b⟩, hr, he⟩ := Option.map_eq_some_iff.1 h
    obtain ⟨rfl, rfl⟩ := Prod.mk.injEq .. |>.mp he
    exact ih hr
  | case3 r =>
    -- the brace that closes more than was opened ends the body here
    simp only [Option.some.injEq, Prod.mk.injEq] at h
    obtain ⟨rfl, rfl⟩ := h
    rfl
  | case4 r d ih =>
    obtain ⟨⟨a, b⟩, hr, he⟩ := Option.map_eq_some_iff.1 h
    obtain ⟨rfl, rfl⟩ := Prod.mk.injEq .. |>.mp he
    exact ih hr
  | case5 d c r ho hc ih =>
    obtain ⟨⟨a, b⟩, hr, he⟩ := Option.map_eq_some_iff.1 h
    obtain ⟨rfl, rfl⟩ := Prod.mk.injEq .. |>.mp he
    rw [balanced_cons_of_ne ho hc]
    exact ih hr

/-- A text is cut at its closing brace exactly behind a balanced text. -/
theorem closing?_eq_some_iff {depth : Nat} {cs body rest : List Char} :
    closing? depth cs = some (body, rest) ↔ cs = body ++ '}' :: rest ∧ Balanced depth body :=
  ⟨fun h => ⟨closing?_eq_some h, balanced_of_closing? h⟩,
    fun ⟨he, hb⟩ => he ▸ closing?_of_balanced hb rest⟩

/-! ## Whole templates -/

/-- A template without the beginning of a placeholder is a literal. -/
theorem split?_of_literal {cs : List Char} (h : Text.contains opening cs = false) :
    split? cs = some (literalSegment cs) := by
  have hn : Text.cut? opening cs = none := by simpa [Text.contains] using h
  rw [split?]
  split
  · rfl
  · next hs => rw [hn] at hs; cases hs

/-- A balanced body between `${` and `}` is one placeholder. -/
theorem split?_of_placeholder {body : List Char} (h : Balanced 0 body) :
    split? (Segment.placeholder body).write = some [.placeholder body] := by
  have hcut : Text.cut? opening (Segment.placeholder body).write = some ([], body ++ ['}']) := rfl
  have hclose := closing?_of_balanced h []
  have hrest : split? [] = some [] := split?_of_literal rfl
  rw [split?]
  split
  · next hs => rw [hcut] at hs; cases hs
  · next before r hs =>
    rw [hcut] at hs
    cases hs
    split
    · next hb => rw [hclose] at hb; cases hb
    · next b rest hb =>
      rw [hclose] at hb
      cases hb
      rw [hrest]
      rfl

theorem isSome_split?_placeholder {body : List Char} (h : Balanced 0 body) :
    (split? (Segment.placeholder body).write).isSome := by
  rw [split?_of_placeholder h]
  rfl

/-- A placeholder has no blanks at its ends. -/
theorem trim_placeholder (body : List Char) :
    Text.trim (Segment.placeholder body).write = (Segment.placeholder body).write := by
  refine Text.trim_eq_self ?_ ?_
  · intro c hc
    obtain rfl : '$' = c := by simpa [Segment.write] using hc
    decide
  · intro c hc
    rw [Segment.write, List.getLast?_concat] at hc
    obtain rfl : '}' = c := by simpa using hc
    decide

end Rehearsal.Template

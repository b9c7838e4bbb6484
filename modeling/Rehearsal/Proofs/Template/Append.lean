import Rehearsal.Proofs.Template.Balance

/-!
# Templates one behind the other

Where two texts meet, a `$` and a `{` may make the beginning of a placeholder that neither of them
has; if they do not, the texts are `Apart`. Main statements: a template that is written behind
another one is cut as it is alone, and literals that meet become one (`split?_append`); and a
placeholder that is not closed is not closed by a text without closing braces either
(`split?_append_eq_none`).
-/

namespace Rehearsal

/-! ## Searching across the place where texts meet -/

namespace Text

/-- A needle that is no longer than a text is looked for in the text alone. -/
theorem strip?_append_of_length_le {needle a : List Char} (h : needle.length ≤ a.length)
    (b : List Char) : strip? needle (a ++ b) = (strip? needle a).map (· ++ b) := by
  induction needle generalizing a with
  | nil => rfl
  | cons n ns ih =>
    cases a with
    | nil => simp at h
    | cons c cs =>
      have hle : ns.length ≤ cs.length := Nat.le_of_succ_le_succ h
      by_cases hc : n = c
      · simp [strip?, hc, ih hle]
      · simp [strip?, hc]

/-- The first place of a needle stays the first one if the text goes on. -/
theorem cut?_append {needle a x y : List Char} (h : cut? needle a = some (x, y))
    (b : List Char) : cut? needle (a ++ b) = some (x, y ++ b) := by
  induction a generalizing x with
  | nil =>
    cases needle with
    | nil =>
      obtain ⟨rfl, rfl⟩ : [] = x ∧ [] = y := by simpa [cut?, strip?] using h
      cases b <;> simp [cut?, strip?]
    | cons n ns => simp [cut?, strip?] at h
  | cons c cs ih =>
    have hle : needle.length ≤ (c :: cs).length := by
      have := length_of_cut? h
      omega
    have hstrip := strip?_append_of_length_le hle b
    rw [List.cons_append] at hstrip
    rw [List.cons_append, cut?, hstrip]
    rw [cut?] at h
    cases hs : strip? needle (c :: cs) with
    | some r =>
      obtain ⟨rfl, rfl⟩ : [] = x ∧ r = y := by simpa [hs] using h
      rfl
    | none =>
      rw [hs] at h
      obtain ⟨⟨x', y'⟩, hcut, he⟩ := Option.map_eq_some_iff.1 h
      obtain ⟨rfl, rfl⟩ := Prod.mk.injEq .. |>.mp he
      simp [ih hcut]

end Text

namespace Template

/-- No placeholder begins with the end of one text and the start of the other. -/
def Apart (a b : List Char) : Prop := ¬(a.getLast? = some '$' ∧ b.head? = some '{')

/-- What stands in front of the first text does not matter. -/
theorem Apart.of_append {x a b : List Char} (h : Apart (x ++ a) b) : Apart a b := by
  rintro ⟨ha, hb⟩
  refine h ⟨?_, hb⟩
  rw [List.getLast?_append, ha]
  rfl

/-- Behind a text without a placeholder the first one is that of the next text. -/
theorem cut?_opening_append {a b : List Char} (ha : Text.contains opening a = false)
    (hab : Apart a b) :
    Text.cut? opening (a ++ b) = (Text.cut? opening b).map fun (x, y) => (a ++ x, y) := by
  induction a with
  | nil => simp
  | cons c cs ih =>
    have hcut : Text.cut? opening (c :: cs) = none := by simpa [Text.contains] using ha
    rw [Text.cut?] at hcut
    have hstrip : Text.strip? opening (c :: cs) = none := by
      cases hs : Text.strip? opening (c :: cs) with
      | none => rfl
      | some r => simp [hs] at hcut
    have hcs : Text.contains opening cs = false := by simpa [hstrip, Text.contains] using hcut
    -- only with a single character left can the needle reach over the place where the texts meet
    have happend : Text.strip? opening (c :: (cs ++ b)) = none := by
      cases cs with
      | nil =>
        rw [← Option.not_isSome_iff_eq_none, Option.isSome_iff_exists]
        rintro ⟨r, hr⟩
        obtain ⟨rfl, rfl⟩ : c = '$' ∧ b = '{' :: r := by
          simpa [opening] using Text.strip?_eq_some.1 hr
        exact hab ⟨rfl, rfl⟩
      | cons d ds =>
        have hle : opening.length ≤ (c :: d :: ds).length := by simp [opening]
        have := Text.strip?_append_of_length_le hle b
        rwa [hstrip] at this
    have hab' : Apart cs b := Apart.of_append (x := [c]) hab
    rw [List.cons_append, Text.cut?, happend, ih hcs hab']
    simp [Function.comp_def]

/-! ## Cutting -/

/-- A closing brace stays the first one if the text goes on. -/
theorem closing?_append {depth : Nat} {cs body rest : List Char}
    (h : closing? depth cs = some (body, rest)) (b : List Char) :
    closing? depth (cs ++ b) = some (body, rest ++ b) := by
  obtain ⟨rfl, hbal⟩ := closing?_eq_some_iff.1 h
  rw [List.append_assoc, List.cons_append]
  exact closing?_of_balanced hbal _

/-- The cut of a template, without the bounds that its recursion stands on. -/
theorem split?_eq (cs : List Char) :
    split? cs = match Text.cut? opening cs with
      | none => some (literalSegment cs)
      | some (before, r) => (closing? 0 r).bind fun (body, rest) =>
          (split? rest).map fun segments =>
            literalSegment before ++ .placeholder body :: segments := by
  rw [split?]
  split
  · next h => simp [h]
  · next before r h =>
    simp only [h]
    split
    · next hb => simp [hb]
    · next body rest hb => simp [hb]

/-- The segments of two texts that meet: literals that stand side by side become one. -/
def join : List Segment → List Segment → List Segment
  | [], ts => ts
  | [.literal a], .literal b :: ts => .literal (a ++ b) :: ts
  | s :: ss, ts => s :: join ss ts

/-- A placeholder in front stays in front. -/
theorem join_placeholder (p : List Char) (ss ts : List Segment) :
    join (.placeholder p :: ss) ts = .placeholder p :: join ss ts := by
  cases ss <;> rfl

/-- So does a literal with a placeholder behind it. -/
theorem join_literalSegment_placeholder (a p : List Char) (ss ts : List Segment) :
    join (literalSegment a ++ .placeholder p :: ss) ts
      = literalSegment a ++ .placeholder p :: join ss ts := by
  rw [← join_placeholder]
  cases a <;> rfl

/-- A literal meets what begins with a literal, or with none. -/
theorem join_literalSegment (a b : List Char) {ts : List Segment}
    (h : ∀ t, ts.head? ≠ some (.literal t)) :
    join (literalSegment a) (literalSegment b ++ ts) = literalSegment (a ++ b) ++ ts := by
  cases a with
  | nil => rfl
  | cons c a =>
    cases b with
    | cons d b => rfl
    | nil =>
      rw [List.append_nil]
      cases ts with
      | nil => rfl
      | cons t ts =>
        cases t with
        | literal t => exact absurd rfl (h t)
        | placeholder p => rfl

/-- A template behind another one is cut as it is alone. -/
theorem split?_append {a b : List Char} {segments : List Segment} (h : split? a = some segments)
    (hab : Apart a b) : split? (a ++ b) = (split? b).map (join segments) := by
  fun_induction split? a generalizing segments with
  | case1 a hcut =>
    obtain rfl : literalSegment a = segments := by simpa using h
    have ha : Text.contains opening a = false := by simp [Text.contains, hcut]
    rw [split?_eq, split?_eq b, cut?_opening_append ha hab]
    cases hb : Text.cut? opening b with
    | none =>
      have := @join_literalSegment a b [] (by simp)
      simpa using this.symm
    | some p =>
      obtain ⟨before, r⟩ := p
      dsimp only [Option.map_some]
      rw [Option.map_bind]
      refine congrArg _ (funext fun p => ?_)
      obtain ⟨body, rest⟩ := p
      rw [Function.comp_apply, Option.map_map]
      refine congrArg (Option.map · _) (funext fun ss => ?_)
      exact (join_literalSegment a before (by simp)).symm
  | case2 => cases h
  | case3 a before r hcut body rest hclose _ ih =>
    obtain ⟨ss, hss, rfl⟩ := Option.map_eq_some_iff.1 h
    have hrest : Apart rest b := by
      have ha : a = (before ++ opening ++ (body ++ ['}'])) ++ rest := by
        simp [Text.cut?_eq_some hcut, closing?_eq_some hclose]
      rw [ha] at hab
      exact hab.of_append
    rw [split?_eq, Text.cut?_append hcut]
    dsimp only
    rw [closing?_append hclose, Option.bind_some, ih hss hrest, Option.map_map]
    refine congrArg (Option.map · _) (funext fun ts => ?_)
    exact (join_literalSegment_placeholder before body ss ts).symm

/-! ## Placeholders that are not closed -/

/-- A text without closing braces closes nothing. -/
theorem closing?_append_eq_none {r b : List Char} (h : closing? 0 r = none) (hb : '}' ∉ b) :
    closing? 0 (r ++ b) = none := by
  rw [← Option.not_isSome_iff_eq_none, Option.isSome_iff_exists]
  rintro ⟨⟨body, rest⟩, hc⟩
  obtain ⟨he, hbal⟩ := closing?_eq_some_iff.1 hc
  rcases List.append_eq_append_iff.1 he with ⟨m, rfl, hm⟩ | ⟨m, rfl, hm⟩
  · -- the body reaches beyond the first text, so that the second one holds the closing brace
    exact hb (by simp [hm])
  · cases m with
    | nil =>
      obtain rfl : '}' :: rest = b := hm
      exact hb List.mem_cons_self
    | cons c m =>
      obtain rfl : '}' = c := (List.cons.inj hm).1
      rw [closing?_of_balanced hbal] at h
      cases h

/-- A text without closing braces closes no placeholder. -/
theorem split?_append_eq_none {a b : List Char} (h : split? a = none) (hb : '}' ∉ b) :
    split? (a ++ b) = none := by
  fun_induction split? a with
  | case1 => cases h
  | case2 a before r hcut hclose =>
    rw [split?_eq, Text.cut?_append hcut]
    simp [closing?_append_eq_none hclose hb]
  | case3 a before r hcut body rest hclose _ ih =>
    rw [split?_eq, Text.cut?_append hcut]
    simp [closing?_append hclose, ih (Option.map_eq_none_iff.1 h)]

/-! ## Inert texts -/

/-- A text without dollar signs and braces: no placeholder begins or ends in it. -/
def IsInert (cs : List Char) : Prop := ∀ c ∈ cs, c ≠ '$' ∧ c ≠ '{' ∧ c ≠ '}'

@[simp] theorem isInert_nil : IsInert [] := fun _ h => absurd h List.not_mem_nil

@[simp] theorem isInert_append {a b : List Char} : IsInert (a ++ b) ↔ IsInert a ∧ IsInert b :=
  List.forall_mem_append

@[simp] theorem isInert_cons {c : Char} {cs : List Char} :
    IsInert (c :: cs) ↔ (c ≠ '$' ∧ c ≠ '{' ∧ c ≠ '}') ∧ IsInert cs := List.forall_mem_cons

/-- No placeholder begins in a text without dollar signs. -/
theorem IsInert.contains_opening {cs : List Char} (h : IsInert cs) :
    Text.contains opening cs = false := by
  rw [← Bool.not_eq_true]
  intro hc
  obtain ⟨⟨x, y⟩, hcut⟩ := Option.isSome_iff_exists.1 hc
  have hmem : '$' ∈ cs := by simp [Text.cut?_eq_some hcut, opening]
  exact (h _ hmem).1 rfl

theorem IsInert.apart_left {a : List Char} (h : IsInert a) (b : List Char) : Apart a b :=
  fun hab => (h _ (List.mem_of_getLast? hab.1)).1 rfl

theorem IsInert.apart_right {b : List Char} (h : IsInert b) (a : List Char) : Apart a b :=
  fun hab => (h _ (List.mem_of_head? hab.2)).2.1 rfl

/-- It is one literal. -/
theorem IsInert.split? {cs : List Char} (h : IsInert cs) :
    split? cs = some (literalSegment cs) := split?_of_literal h.contains_opening

/-- Behind an inert text a template is cut as it is alone. -/
theorem isSome_split?_inert_append {left : List Char} (h : IsInert left) (cs : List Char) :
    (Template.split? (left ++ cs)).isSome = (Template.split? cs).isSome := by
  rw [split?_append h.split? (h.apart_left cs), Option.isSome_map]

/-- So it is in front of one. -/
theorem isSome_split?_append_inert {right : List Char} (h : IsInert right) (cs : List Char) :
    (Template.split? (cs ++ right)).isSome = (Template.split? cs).isSome := by
  cases hs : Template.split? cs with
  | none => rw [split?_append_eq_none hs fun hm => (h _ hm).2.2 rfl]
  | some segments => rw [split?_append hs (h.apart_right cs), h.split?]; rfl

end Template
end Rehearsal

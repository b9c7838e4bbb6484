import Rehearsal.Proofs.Scope.Append

/-!
# The canonical segments of a template

Cutting and writing are inverse to each other between all templates whose placeholders are closed
and the canonical lists of segments: the segments of a template are canonical and are written as it
(`canonical_of_split?`, `write_of_split?`), and every canonical list is what its written form is cut
into (`split?_write`). Main statement: `split?` gives the one canonical list that is written as the
template, and a template that no such list is written as has no text in any scope
(`split?_canonical_iff`). What a balanced body is, is said in numbers of braces as well
(`balanced_iff_count`).
-/

namespace Rehearsal

/-! ## The first place of a needle -/

/-- In front of the first place of a needle there is none. -/
theorem Text.contains_of_cut? {needle cs a b : List Char} (hn : needle ≠ [])
    (h : cut? needle cs = some (a, b)) : contains needle a = false := by
  induction cs generalizing a with
  | nil =>
    have hcs := cut?_eq_some h
    simp [hn] at hcs
  | cons c cs ih =>
    rw [cut?] at h
    cases hs : strip? needle (c :: cs) with
    | some r =>
      obtain ⟨rfl, -⟩ : [] = a ∧ r = b := by simpa [hs] using h
      cases needle with
      | nil => exact absurd rfl hn
      | cons n ns => rfl
    | none =>
      rw [hs] at h
      obtain ⟨⟨a', b'⟩, hcut, he⟩ := Option.map_eq_some_iff.1 h
      obtain ⟨rfl, rfl⟩ := Prod.mk.injEq .. |>.mp he
      -- a needle at the start of the part would be one at the start of the whole text
      have hstrip : strip? needle (c :: a') = none := by
        rw [← Option.not_isSome_iff_eq_none, Option.isSome_iff_exists]
        rintro ⟨r, hr⟩
        have hwhole : strip? needle (c :: cs) = some (r ++ needle ++ b') := by
          rw [strip?_eq_some, cut?_eq_some hcut]
          simp [← List.cons_append, strip?_eq_some.1 hr]
        rw [hs] at hwhole
        cases hwhole
      have ha' : cut? needle a' = none := by simpa [contains] using ih hcut
      simp [contains, cut?, hstrip, ha']

namespace Template

/-! ## Balanced bodies in numbers -/

/-- The leading parts of a text are the empty one and those of its rest behind its first character.
-/
theorem forall_prefix_cons {P : List Char → Prop} {c : Char} {r : List Char} :
    (∀ p, p <+: c :: r → P p) ↔ P [] ∧ ∀ q, q <+: r → P (c :: q) := by
  simp only [List.prefix_cons_iff]
  constructor
  · exact fun h => ⟨h [] (.inl rfl), fun q hq => h _ (.inr ⟨q, rfl, hq⟩)⟩
  · rintro ⟨hnil, hcons⟩ p (rfl | ⟨q, rfl, hq⟩)
    · exact hnil
    · exact hcons q hq

/-- With `depth` braces open, a text is balanced if no leading part of it closes more than are open
and in the end all are closed. -/
theorem balanced_iff_count {depth : Nat} {cs : List Char} : Balanced depth cs
    ↔ (∀ p, p <+: cs → p.count '}' ≤ depth + p.count '{')
      ∧ cs.count '}' = depth + cs.count '{' := by
  fun_induction Balanced depth cs with
  | case1 depth => simp [eq_comm]
  | case2 depth r ih =>
    rw [ih, forall_prefix_cons]
    simp [Nat.add_assoc, Nat.add_comm 1]
  | case3 r =>
    -- the first brace closes one that is not open
    rw [forall_prefix_cons]
    simp only [false_iff, not_and]
    rintro ⟨-, hle⟩
    have := hle [] List.nil_prefix
    simp at this
  | case4 r depth ih =>
    rw [ih, forall_prefix_cons]
    simp [Nat.add_right_comm]
  | case5 depth c r ho hc ih =>
    have hopen : ∀ q : List Char, (c :: q).count '{' = q.count '{' := fun q =>
      List.count_cons_of_ne fun h => ho h
    have hclose : ∀ q : List Char, (c :: q).count '}' = q.count '}' := fun q =>
      List.count_cons_of_ne fun h => hc h
    rw [ih, forall_prefix_cons]
    simp [hopen, hclose]

/-! ## Cutting and writing -/

/-- A literal, if there is anything in it, may stand in front of a canonical list that begins with a
placeholder. -/
theorem canonical_literalSegment_append {text : List Char} {segments : List Segment}
    (ht : Text.contains opening text = false) (hs : ∀ t, segments.head? ≠ some (.literal t))
    (h : Canonical segments) : Canonical (literalSegment text ++ segments) := by
  cases text with
  | nil => exact h
  | cons c text => exact ⟨List.cons_ne_nil c text, ht, hs, h⟩

theorem write_literalSegment (text : List Char) : write (literalSegment text) = text := by
  cases text <;> simp [literalSegment, write, Segment.write]

theorem write_append (ss ts : List Segment) : write (ss ++ ts) = write ss ++ write ts :=
  List.flatMap_append

/-- The segments of a template are canonical. -/
theorem canonical_of_split? {cs : List Char} {segments : List Segment}
    (h : split? cs = some segments) : Canonical segments := by
  fun_induction split? cs generalizing segments with
  | case1 cs hcut =>
    obtain rfl : literalSegment cs = segments := by simpa using h
    have hcs : Text.contains opening cs = false := by simp [Text.contains, hcut]
    have hlast : Canonical (literalSegment cs ++ []) :=
      canonical_literalSegment_append hcs (by simp) trivial
    rwa [List.append_nil] at hlast
  | case2 => cases h
  | case3 cs before r hcut body rest hclose _ ih =>
    obtain ⟨ss, hss, rfl⟩ := Option.map_eq_some_iff.1 h
    have hbefore := Text.contains_of_cut? (by simp [opening]) hcut
    exact canonical_literalSegment_append hbefore (by simp) ⟨balanced_of_closing? hclose, ih hss⟩

/-- The segments of a template are written as the template. -/
theorem write_of_split? {cs : List Char} {segments : List Segment}
    (h : split? cs = some segments) : write segments = cs := by
  fun_induction split? cs generalizing segments with
  | case1 cs =>
    obtain rfl : literalSegment cs = segments := by simpa using h
    exact write_literalSegment cs
  | case2 => cases h
  | case3 cs before r hcut body rest hclose _ ih =>
    obtain ⟨ss, hss, rfl⟩ := Option.map_eq_some_iff.1 h
    have hr : '$' :: '{' :: body ++ '}' :: write ss = opening ++ r := by
      rw [ih hss, closing?_eq_some hclose]
      rfl
    rw [write_append, write_literalSegment, Text.cut?_eq_some hcut, List.append_assoc, ← hr]
    simp [write, Segment.write]

/-- What is written for a canonical list without a literal in front does not begin with a brace. -/
theorem head?_write_ne {segments : List Segment} (h : ∀ t, segments.head? ≠ some (.literal t)) :
    (write segments).head? ≠ some '{' := by
  cases segments with
  | nil => simp [write]
  | cons s ss =>
    cases s with
    | literal t => exact absurd rfl (h t)
    | placeholder body => simp [write, Segment.write]

/-- A canonical list is what its written form is cut into. -/
theorem split?_write {segments : List Segment} (h : Canonical segments) :
    split? (write segments) = some segments := by
  induction segments with
  | nil => exact split?_of_literal rfl
  | cons s ss ih =>
    have hw : write (s :: ss) = s.write ++ write ss := rfl
    cases s with
    | literal text =>
      obtain ⟨hne, hplain, hhead, hss⟩ := h
      have hapart : Apart text (write ss) := fun hab => head?_write_ne hhead hab.2
      have hlit : literalSegment text = [.literal text] := by
        rw [literalSegment, if_neg (by simpa using hne)]
      rw [hw, Segment.write, split?_append (split?_of_literal hplain) hapart, ih hss,
        Option.map_some, hlit]
      -- no literal comes behind the first one that it could become one with
      have hjoin := join_literalSegment text [] hhead
      rw [List.append_nil, hlit] at hjoin
      exact congrArg some hjoin
    | placeholder body =>
      obtain ⟨hbody, hss⟩ := h
      have hapart : Apart (Segment.placeholder body).write (write ss) := by
        rintro ⟨hlast, -⟩
        rw [Segment.write, List.getLast?_concat] at hlast
        cases hlast
      rw [hw, split?_append (split?_of_placeholder hbody) hapart, ih hss, Option.map_some,
        join_placeholder]
      rfl

/-- A template is cut into the one canonical list of segments that is written as it, where the
bodies of a canonical list close no more braces than they open at any place and all of them in the
end. It is not cut if no canonical list is written as it, and then it stands for no text in any
scope. -/
theorem split?_canonical_iff :
    (∀ cs segments, split? cs = some segments ↔ Canonical segments ∧ write segments = cs)
      ∧ (∀ body, Balanced 0 body ↔ (∀ p, p <+: body → p.count '}' ≤ p.count '{')
        ∧ body.count '}' = body.count '{')
      ∧ (∀ cs, split? cs = none ↔ ∀ segments, Canonical segments → write segments ≠ cs)
      ∧ ∀ (s : Scope) (template : String),
        (∀ segments, Canonical segments → write segments ≠ template.toList) →
          s.resolve template = throw (.expression (.unterminated template)) := by
  have hiff : ∀ cs segments,
      split? cs = some segments ↔ Canonical segments ∧ write segments = cs := by
    intro cs segments
    constructor
    · exact fun h => ⟨canonical_of_split? h, write_of_split? h⟩
    · rintro ⟨hc, rfl⟩
      exact split?_write hc
  have hnone : ∀ cs, split? cs = none ↔ ∀ segments, Canonical segments → write segments ≠ cs := by
    intro cs
    rw [Option.eq_none_iff_forall_ne_some]
    exact forall_congr' fun segments => by rw [Ne, hiff, not_and]
  refine ⟨hiff, fun body => by simpa using @balanced_iff_count 0 body, hnone, ?_⟩
  intro s template h
  rw [Scope.resolve, Scope.resolveChars_of_split?_eq_none ((hnone _).2 h), String.ofList_toList]
  rfl

end Template
end Rehearsal

import Mathlib.Data.List.Forall2
import Rehearsal.Proofs.Call.Split
import Rehearsal.Proofs.Matcher.Written
import Rehearsal.Proofs.Scope.Append

/-!
# Arguments whose text is put in

The text of a list of arguments is made of the texts of its pieces, but it is a list of the same
arguments only if none of these texts brings a comma, a quote or a bracket of its own into it. A
piece keeps its argument (`IsKept`) if its text put into it is one piece again, with that text as
its argument. Main statement: if all pieces keep their arguments, the text of the list is split into
the texts of the arguments (`splitArguments_of_kept`).
-/

namespace Rehearsal

namespace Text

/-- What a needle is found in is found in every longer text. -/
theorem contains_append_right {needle a : List Char} (h : contains needle a = true)
    (b : List Char) : contains needle (a ++ b) = true := by
  obtain ⟨⟨x, y⟩, hxy⟩ := Option.isSome_iff_exists.1 h
  rw [contains, cut?_append hxy]
  rfl

/-- It does not matter what stands in front of it. -/
theorem contains_append_left {needle b : List Char} (h : contains needle b = true)
    (a : List Char) : contains needle (a ++ b) = true := by
  induction a with
  | nil => exact h
  | cons c a ih =>
    rw [contains, List.cons_append, cut?]
    split
    · rfl
    · rw [Option.isSome_map]
      exact ih

/-- What is not in a text is in no part of it. -/
theorem contains_infix {needle left cs right : List Char}
    (h : contains needle (left ++ cs ++ right) = false) : contains needle cs = false := by
  rw [← Bool.not_eq_true] at h ⊢
  exact fun hcs => h (contains_append_right (contains_append_left hcs left) right)

end Text

namespace Call

/-- The argument that stands in a piece of a list. -/
def content (piece : List Char) : List Char := unquote (Text.trim piece)

/-- Quotes are taken away where they stand on both sides, and else nothing is. -/
theorem unquote_eq_or (cs : List Char) : unquote cs = cs ∨ cs = quoted (unquote cs) := by
  unfold unquote
  split
  · next c r =>
    split
    · next h =>
      obtain ⟨rfl, hlast⟩ := h
      obtain ⟨ys, rfl⟩ := List.getLast?_eq_some_iff.1 hlast
      exact .inr (by rw [List.dropLast_concat, quoted]; rfl)
    · exact .inl rfl
  · exact .inl rfl

/-- A piece is its argument with blanks around it, and quotes if it has any. -/
theorem exists_content (piece : List Char) : ∃ left right, piece = left ++ content piece ++ right
    ∧ Template.IsInert left ∧ Template.IsInert right := by
  obtain ⟨l, r, hp, hl, hr⟩ := Text.exists_trim piece
  have hil := Matcher.isInert_of_blank hl
  have hir := Matcher.isInert_of_blank hr
  rcases unquote_eq_or (Text.trim piece) with h | h
  · refine ⟨l, r, ?_, hil, hir⟩
    rw [content, h]
    exact hp
  · refine ⟨l ++ [quote], quote :: r, ?_, ?_, ?_⟩
    · rw [h, quoted] at hp
      simpa [content] using hp
    · exact Template.isInert_append.2 ⟨hil, by simp [quote]⟩
    · exact Template.isInert_cons.2 ⟨by decide, hir⟩

end Call

namespace Matcher

open Call

/-- What may be put in for an argument without quotes: one piece, without blanks and quotes around
it. -/
structure IsBare (text : List Char) : Prop where
  enclosed : Enclosed false 0 text
  trimmed : Text.trim text = text
  unquoted : unquote text = text
  nonempty : text ≠ []

/-- A piece is a piece with the same argument when the text of its argument is put into it. -/
inductive IsKept : (piece text : List Char) → Prop
  /-- Nothing is put into a piece without placeholders. -/
  | plain {piece text : List Char} (h : Text.contains Template.opening piece = false) :
      IsKept piece text
  /-- In quotes the text has none of its own, or only such as leave the piece whole. -/
  | quoted {piece text : List Char} (h : Text.trim piece = Call.quoted (content piece))
      (ht : Enclosed false 0 (Call.quoted text))
      (hplain : Text.contains Template.opening text = false) : IsKept piece text
  | bare {piece text : List Char} (h : Text.trim piece = content piece) (ht : IsBare text)
      (hplain : Text.contains Template.opening text = false) : IsKept piece text

/-- A text without quotes, brackets, commas and blanks may be put in for an argument without
quotes. -/
theorem isBare_of_plain {text : List Char}
    (h : ∀ c ∈ text, IsPlain 0 c ∧ Text.isBlank c = false) (hne : text ≠ []) : IsBare text where
  enclosed := by
    rw [← List.append_nil text, enclosed_plain_append fun c hc => (h c hc).1]
    exact ⟨rfl, rfl⟩
  trimmed := Text.trim_eq_self (fun c hc => (h c (List.mem_of_head? hc)).2)
    (fun c hc => (h c (List.mem_of_getLast? hc)).2)
  unquoted := by
    cases text with
    | nil => rfl
    | cons c cs => exact unquote_of_ne (h c List.mem_cons_self).1.1
  nonempty := hne

/-- A text without quotes may be put in for an argument in quotes. -/
theorem isKept_of_quoted {piece text : List Char}
    (h : Text.trim piece = Call.quoted (content piece)) (ht : quote ∉ text)
    (hplain : Text.contains Template.opening text = false) : IsKept piece text := by
  refine .quoted h ?_ hplain
  rw [← List.append_nil (Call.quoted text), enclosed_quoted_append ht]
  exact ⟨rfl, rfl⟩

/-- What a piece becomes when a text is put into it is one piece again, and is not blank if the
piece was not. -/
structure Stands (piece result : List Char) : Prop where
  isPiece : result = piece ∨ Enclosed false 0 result
  nonblank : Text.trim piece ≠ [] → Text.trim result ≠ []

variable {s : Scope} {fresh fresh' : Fresh}

/-- The text of a piece that keeps its argument has the text of the argument as its argument, and
that text is no template any more. -/
theorem exists_result {piece text : List Char} (h : IsKept piece text)
    (ht : (s.resolveChars (content piece)).run fresh = .ok (text, fresh')) :
    ∃ result, (s.resolveChars piece).run fresh = .ok (result, fresh') ∧ Stands piece result
      ∧ content result = text ∧ Text.contains Template.opening text = false := by
  obtain ⟨l, r, hp, hl, hr⟩ := Text.exists_trim piece
  have hil := isInert_of_blank hl
  have hir := isInert_of_blank hr
  cases h with
  | plain h =>
    obtain ⟨left, right, he, -⟩ := exists_content piece
    have hcontent : Text.contains Template.opening (content piece) = false :=
      Text.contains_infix (he ▸ h)
    rw [s.resolveChars_of_plain hcontent] at ht
    cases ht
    exact ⟨piece, by rw [s.resolveChars_of_plain h]; rfl, ⟨.inl rfl, id⟩, rfl, hcontent⟩
  | quoted h hq hplain =>
    have hil' : Template.IsInert (l ++ [quote]) :=
      Template.isInert_append.2 ⟨hil, by simp [quote]⟩
    have hir' : Template.IsInert (quote :: r) := Template.isInert_cons.2 ⟨by decide, hir⟩
    have hpiece : piece = l ++ [quote] ++ content piece ++ quote :: r := by
      rw [h, Call.quoted] at hp
      simpa using hp
    have hrun := (Scope.run_resolveChars_frame hil' hir').2 ⟨text, ht, rfl⟩
    rw [← hpiece] at hrun
    have hw : l ++ [quote] ++ text ++ quote :: r = l ++ Call.quoted text ++ r := by
      simp [Call.quoted]
    refine ⟨l ++ Call.quoted text ++ r, hw ▸ hrun, ⟨.inr (enclosed_blanks hl hr hq), ?_⟩, ?_,
      hplain⟩
    · rw [Text.trim_blanks hl hr, trim_quoted]
      exact fun _ => List.cons_ne_nil _ _
    · rw [content, Text.trim_blanks hl hr, trim_quoted, unquote_quoted]
  | bare h hb hplain =>
    have hrun := (Scope.run_resolveChars_frame hil hir).2 ⟨text, ht, rfl⟩
    rw [← h, ← hp] at hrun
    refine ⟨l ++ text ++ r, hrun, ⟨.inr (enclosed_blanks hl hr hb.enclosed), ?_⟩, ?_, hplain⟩
    · rw [Text.trim_blanks hl hr, hb.trimmed]
      exact fun _ => hb.nonempty
    · rw [content, Text.trim_blanks hl hr, hb.trimmed, hb.unquoted]

/-- A piece stands for a text only if its argument does. -/
theorem exists_text_of_piece {piece result : List Char}
    (h : (s.resolveChars piece).run fresh = .ok (result, fresh')) :
    ∃ text, (s.resolveChars (content piece)).run fresh = .ok (text, fresh') := by
  obtain ⟨left, right, hp, hl, hr⟩ := exists_content piece
  rw [hp] at h
  obtain ⟨text, ht, -⟩ := (Scope.run_resolveChars_frame hl hr).1 h
  exact ⟨text, ht⟩

/-! ## Lists -/

/-- The results are the pieces of their list. -/
theorem pieces_of_stands {raw : List Char} {ps results : List (List Char)}
    (h : pieces false 0 raw = ps) (hs : List.Forall₂ Stands ps results) :
    pieces false 0 ([','].intercalate results) = results := by
  induction hs generalizing raw with
  | nil => exact absurd h (pieces_ne_nil _ _ _)
  | @cons p r ps results hpr hrest ih =>
    cases hrest with
    | nil =>
      rw [List.intercalate_singleton]
      rcases hpr.isPiece with rfl | henclosed
      · -- a single piece is the whole list
        have hraw := intercalate_pieces false 0 raw
        rw [h, List.intercalate_singleton] at hraw
        rwa [← hraw] at h
      · exact pieces_of_enclosed henclosed
    | @cons q u ps results hqu hrest =>
      obtain ⟨hp, rest, hpieces⟩ := pieces_eq_cons_cons h
      have hr : Enclosed false 0 r := hpr.isPiece.elim (fun he => he ▸ hp) id
      rw [List.intercalate_cons_cons, List.append_assoc, List.singleton_append, pieces_append hr,
        ih hpieces]

/-- A list of arguments is blank, or has an argument in every piece. -/
theorem splitArguments_cases (raw : List Char) :
    (Text.trim raw = [] ∧ splitArguments raw = []) ∨ ∃ p ps, pieces false 0 raw = p :: ps
      ∧ (ps = [] → Text.trim p ≠ []) ∧ splitArguments raw = (p :: ps).map content := by
  obtain ⟨p, ps, hps⟩ := List.exists_cons_of_ne_nil (pieces_ne_nil false 0 raw)
  by_cases hblank : ps = [] ∧ Text.trim p = []
  · obtain ⟨rfl, hp⟩ := hblank
    have hraw := intercalate_pieces false 0 raw
    rw [hps, List.intercalate_singleton] at hraw
    refine .inl ⟨hraw ▸ hp, ?_⟩
    rw [splitArguments, hps]
    simp [hp]
  · have hp : ps = [] → Text.trim p ≠ [] := fun h hp => hblank ⟨h, hp⟩
    exact .inr ⟨p, ps, hps, hp, splitArguments_eq_map hps hp⟩

theorem isInert_of_trim_eq_nil {cs : List Char} (h : Text.trim cs = []) :
    Template.IsInert cs := by
  obtain ⟨l, r, hcs, hl, hr⟩ := Text.exists_trim cs
  rw [hcs, h]
  simp [isInert_of_blank hl, isInert_of_blank hr]

/-- If pieces have texts, so have the arguments in them. -/
theorem exists_texts_of_pieces {ps results : List (List Char)}
    (h : (ps.mapM s.resolveChars).run fresh = .ok (results, fresh')) :
    ∃ texts, ((ps.map content).mapM s.resolveChars).run fresh = .ok (texts, fresh') := by
  induction ps generalizing fresh results with
  | nil =>
    rw [List.mapM_nil] at h
    cases h
    exact ⟨[], rfl⟩
  | cons p ps ih =>
    obtain ⟨r, fresh₁, rs, hr, hrs, rfl⟩ := Draw.run_mapM_cons_eq_ok.1 h
    obtain ⟨t, ht⟩ := exists_text_of_piece hr
    obtain ⟨ts, hts⟩ := ih hrs
    exact ⟨t :: ts, Draw.run_mapM_cons_eq_ok.2 ⟨t, fresh₁, ts, ht, hts, rfl⟩⟩

/-- If arguments have texts that their pieces keep, the pieces stand for these texts. -/
theorem exists_results {ps texts : List (List Char)} (h : ∀ x ∈ ps.zip texts, IsKept x.1 x.2)
    (ht : ((ps.map content).mapM s.resolveChars).run fresh = .ok (texts, fresh')) :
    ∃ results, (ps.mapM s.resolveChars).run fresh = .ok (results, fresh')
      ∧ List.Forall₂ Stands ps results ∧ results.map content = texts
      ∧ ∀ t ∈ texts, Text.contains Template.opening t = false := by
  induction ps generalizing fresh texts with
  | nil =>
    rw [List.map_nil, List.mapM_nil] at ht
    cases ht
    exact ⟨[], rfl, .nil, rfl, nofun⟩
  | cons p ps ih =>
    obtain ⟨t, fresh₁, ts, hpt, hts, rfl⟩ := Draw.run_mapM_cons_eq_ok.1 ht
    obtain ⟨hp, hps⟩ := List.forall_mem_cons.1 h
    obtain ⟨r, hr, hstands, hcontent, hplain⟩ := exists_result hp hpt
    obtain ⟨rs, hrs, hall, hcontents, hplains⟩ := ih hps hts
    refine ⟨r :: rs, Draw.run_mapM_cons_eq_ok.2 ⟨r, fresh₁, rs, hr, hrs, rfl⟩,
      .cons hstands hall, ?_, List.forall_mem_cons.2 ⟨hplain, hplains⟩⟩
    rw [List.map_cons, hcontent, hcontents]

section List
variable {raw : List Char}
  (hclosed : ∀ p ∈ pieces false 0 raw, (Template.split? p).isSome)
include hclosed

/-- A list is resolved piece by piece, with the commas between. -/
theorem resolveChars_pieces : s.resolveChars raw = (do
    let ts ← (pieces false 0 raw).mapM s.resolveChars
    return [','].intercalate ts) := by
  have hraw := intercalate_pieces false 0 raw
  obtain ⟨p, ps, hps⟩ := List.exists_cons_of_ne_nil (pieces_ne_nil false 0 raw)
  rw [hps] at hclosed hraw ⊢
  rw [← Scope.resolveChars_intercalate hclosed, hraw]

/-- A list stands for a text only if all of its arguments do. -/
theorem exists_texts_of_list {list : List Char}
    (h : (s.resolveChars raw).run fresh = .ok (list, fresh')) :
    ∃ texts, ((splitArguments raw).mapM s.resolveChars).run fresh = .ok (texts, fresh') := by
  rcases splitArguments_cases raw with ⟨hblank, hargs⟩ | ⟨p, ps, hps, -, hargs⟩
  · rw [Scope.resolveChars_of_inert (isInert_of_trim_eq_nil hblank)] at h
    cases h
    exact ⟨[], by rw [hargs]; rfl⟩
  · rw [resolveChars_pieces hclosed] at h
    obtain ⟨results, fresh₁, hresults, he⟩ := Draw.run_bind_eq_ok.1 h
    cases he
    rw [hargs, ← hps]
    exact exists_texts_of_pieces hresults

/-- The text of a list whose pieces keep their arguments is split into the texts of the arguments,
and these are no templates any more. -/
theorem splitArguments_of_kept {texts : List (List Char)}
    (hkept : ∀ x ∈ (pieces false 0 raw).zip texts, IsKept x.1 x.2)
    (ht : ((splitArguments raw).mapM s.resolveChars).run fresh = .ok (texts, fresh')) :
    ∃ list, (s.resolveChars raw).run fresh = .ok (list, fresh') ∧ splitArguments list = texts
      ∧ ∀ t ∈ texts, Text.contains Template.opening t = false := by
  rcases splitArguments_cases raw with ⟨hblank, hargs⟩ | ⟨p, ps, hps, hp, hargs⟩
  · rw [hargs, List.mapM_nil] at ht
    cases ht
    exact ⟨raw, by rw [Scope.resolveChars_of_inert (isInert_of_trim_eq_nil hblank)]; rfl, hargs,
      nofun⟩
  · rw [hps] at hkept
    rw [hargs] at ht
    obtain ⟨results, hresults, hall, hcontents, hplain⟩ := exists_results hkept ht
    refine ⟨[','].intercalate results, ?_, ?_, hplain⟩
    · rw [resolveChars_pieces hclosed, hps, Draw.run_bind_of_ok hresults]
      rfl
    · have hpieces := pieces_of_stands hps hall
      cases hall with
      | @cons _ r _ rs hpr hrest =>
        have hr : rs = [] → Text.trim r ≠ [] := by
          rintro rfl
          cases hrest
          exact hpr.nonblank (hp rfl)
        rw [splitArguments_eq_map hpieces hr, ← hcontents]
        rfl

end List
end Matcher
end Rehearsal

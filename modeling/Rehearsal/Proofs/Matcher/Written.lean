import Rehearsal.Matcher.Basic
import Rehearsal.Proofs.Call.Tree
import Rehearsal.Proofs.Template.Append

/-!
# Written matcher expressions

A matcher expression with arguments is a frame around the text between its parentheses. The frame is
inert, so that no placeholder begins or ends in it; and whatever text is put into the frame is read
as the list of arguments of the same matcher. Main statement: `exists_frame_of_parse`.
-/

namespace Rehearsal

/-! ## Names -/

namespace Call

/-- What is read as a qualifier is one. -/
theorem isQualifier_of_readQualifier? {cs q r : List Char}
    (h : readQualifier? cs = some (q, r)) : IsQualifier q := by
  cases cs with
  | nil => cases h
  | cons c cs =>
    rw [readQualifier?] at h
    split at h
    · next hc =>
      split at h
      · cases h
        exact ⟨c, _, rfl, hc, List.all_eq_true.1 List.all_takeWhile⟩
      · cases h
    · cases h

/-- What is read as a name is one. -/
theorem isName_of_readName? {cs n r : List Char} (h : readName? cs = some (n, r)) :
    IsName n := by
  cases cs with
  | nil => cases h
  | cons c cs =>
    rw [readName?] at h
    split at h
    · next hc =>
      cases h
      exact ⟨c, _, rfl, hc, List.all_eq_true.1 List.all_takeWhile⟩
    · cases h

/-- A name in front of a parenthesis is no qualifier. -/
theorem readQualifier?_name {n : List Char} (h : IsName n) (r : List Char) :
    readQualifier? (n ++ '(' :: r) = none := by
  obtain ⟨c, body, rfl, hc, hb⟩ := h
  have hparen : isQualifierChar '(' = false :=
    CallTree.isQualifierChar_eq_false (by decide) (by decide)
  have hb' : ∀ x ∈ body, isQualifierChar x = true := fun x hx =>
    CallTree.isQualifierChar_of_isWord (hb x hx)
  rw [List.cons_append, readQualifier?, if_pos hc, List.dropWhile_append_of_pos hb',
    List.dropWhile_cons_of_neg (by simp [hparen])]
  rfl

/-- A list in parentheses goes up to the end of the text. -/
theorem readParenthesized?_eq_some {cs raw : List Char} (h : readParenthesized? cs = some raw) :
    cs = '(' :: (raw ++ [')']) := by
  unfold readParenthesized? at h
  split at h
  · next r =>
    split at h
    · next hl =>
      obtain ⟨ys, rfl⟩ := List.getLast?_eq_some_iff.1 hl
      rw [List.dropLast_concat] at h
      cases h
      rfl
    · cases h
  · cases h

/-- What a call begins with, where a matcher may be named without a qualifier. -/
def IsHead (q n : List Char) : Prop := (q = [] ∨ IsQualifier q) ∧ IsName n

/-- The names of a call are made of the characters of qualifiers and of a colon. -/
theorem IsHead.isQualifierChar_or {q n : List Char} (h : IsHead q n) :
    ∀ c ∈ q ++ n, isQualifierChar c = true ∨ c = ':' := by
  have hstart : ∀ c, Text.isNameStart c = true → isQualifierChar c = true := fun c hc =>
    CallTree.isQualifierChar_of_isWord (Text.isWord_of_isNameStart hc)
  obtain ⟨hq, b, bs, rfl, hb, hbs⟩ := h
  intro c hc
  rcases List.mem_append.1 hc with hc | hc
  · rcases hq with rfl | ⟨a, as, rfl, ha, has⟩
    · exact absurd hc List.not_mem_nil
    · simp only [List.cons_append, List.mem_cons, List.mem_append, List.not_mem_nil, or_false] at hc
      rcases hc with rfl | hc | rfl
      · exact .inl (hstart _ ha)
      · exact .inl (has c hc)
      · exact .inr rfl
  · rcases List.mem_cons.1 hc with rfl | hc
    · exact .inl (hstart _ hb)
    · exact .inl (CallTree.isQualifierChar_of_isWord (hbs c hc))

/-- No dollar sign and no brace stands in the names of a call. -/
theorem IsHead.isInert {q n : List Char} (h : IsHead q n) : Template.IsInert (q ++ n) := by
  intro c hc
  rcases h.isQualifierChar_or c hc with hc | rfl
  · refine ⟨?_, ?_, ?_⟩ <;>
    · rintro rfl
      rw [CallTree.isQualifierChar_eq_false (by decide) (by decide)] at hc
      cases hc
  · decide

theorem IsHead.head_isBlank {q n : List Char} (h : IsHead q n) (rest : List Char) :
    ∀ c ∈ (q ++ n ++ rest).head?, Text.isBlank c = false := by
  obtain ⟨rfl | ⟨a, as, rfl, ha, -⟩, b, bs, rfl, hb, -⟩ := h
  · simpa using Text.isBlank_eq_false_of_isNameStart hb
  · simpa using Text.isBlank_eq_false_of_isNameStart ha

/-- A call has no blanks at its ends. -/
theorem IsHead.trim_writeCall {q n : List Char} (h : IsHead q n) (raw : List Char) :
    Text.trim (writeCall q n raw) = writeCall q n raw := by
  refine Text.trim_eq_self (h.head_isBlank _) ?_
  rw [writeCall, ← List.cons_append, ← List.append_assoc, List.getLast?_concat]
  simp only [Option.mem_some_iff]
  rintro c rfl
  decide

end Call

namespace Matcher

/-- The text in the parentheses of a matcher expression; empty if it has none. -/
def argumentList (expression : List Char) : List Char :=
  (do
    let cs ← inside? expression
    let (_, r) ← Call.readName? (optionalQualifier (Text.trim cs)).2
    Call.readParenthesized? r).getD []

/-! ## Reading -/

/-- A text is inside of a matcher expression if it is written between two `@`. -/
theorem inside?_eq_some {cs m : List Char} (h : inside? cs = some m) :
    ∃ left right, cs = left ++ '@' :: (m ++ ['@']) ++ right
      ∧ (∀ c ∈ left, Text.isBlank c = true) ∧ (∀ c ∈ right, Text.isBlank c = true) := by
  obtain ⟨left, right, hcs, hl, hr⟩ := Text.exists_trim cs
  unfold inside? at h
  split at h
  · next r htrim =>
    split at h
    · next hlast =>
      obtain ⟨ys, rfl⟩ := List.getLast?_eq_some_iff.1 hlast
      rw [List.dropLast_concat] at h
      cases h
      exact ⟨left, right, htrim ▸ hcs, hl, hr⟩
    · cases h
  · cases h

/-- What stands between two `@` is inside, whatever blanks are around them. -/
theorem inside?_write {left right : List Char} (hl : ∀ c ∈ left, Text.isBlank c = true)
    (hr : ∀ c ∈ right, Text.isBlank c = true) (m : List Char) :
    inside? (left ++ '@' :: (m ++ ['@']) ++ right) = some m := by
  have hat : Text.isBlank '@' = false := by decide
  have htrim : Text.trim (left ++ '@' :: (m ++ ['@']) ++ right) = '@' :: (m ++ ['@']) := by
    rw [Text.trim_blanks hl hr]
    refine Text.trim_eq_self ?_ ?_
    · simpa using hat
    · rw [← List.cons_append, List.getLast?_concat]
      simpa using hat
  rw [inside?, htrim]
  simp

theorem parse_eq_ok {e : String} {call : Call} :
    parse e = .ok call ↔ ∃ m, inside? e.toList = some m ∧ readCall? m = some call := by
  rw [parse]
  cases hm : inside? e.toList with
  | none => simp
  | some m => cases hc : readCall? m <;> simp [hc]

/-- What is read as a matcher is a matcher expression. -/
theorem isExpression_of_parse {e : String} {call : Call} (h : parse e = .ok call) :
    isExpression e = true := by
  obtain ⟨m, hm, -⟩ := parse_eq_ok.1 h
  rw [isExpression, hm]
  rfl

/-- What the call of a matcher is written as: names with blanks in front, then the arguments, and
blanks behind them. -/
theorem readCall?_eq_some {m : List Char} {call : Call} (h : readCall? m = some call) :
    ∃ left right q n rest, m = left ++ (q ++ n ++ rest) ++ right
      ∧ (∀ c ∈ left, Text.isBlank c = true) ∧ (∀ c ∈ right, Text.isBlank c = true)
      ∧ Call.IsHead q n ∧ call.qualifier = String.ofList q ∧ call.name = String.ofList n
      ∧ readArguments? rest = some call.args
      ∧ Call.readName? (optionalQualifier (Text.trim m)).2 = some (n, rest) := by
  obtain ⟨left, right, hm, hl, hr⟩ := Text.exists_trim m
  simp only [readCall?, Option.bind_eq_bind, Option.bind_eq_some_iff, Prod.exists] at h
  obtain ⟨n, rest, hn, args, hargs, hc⟩ := h
  cases hc
  refine ⟨left, right, (optionalQualifier (Text.trim m)).1, n, rest, ?_, hl, hr,
    ⟨?_, Call.isName_of_readName? hn⟩, rfl, rfl, hargs, hn⟩
  · -- the qualifier and the name are what the trimmed text begins with
    have hrest := Call.eq_append_of_readName? hn
    have hq : Text.trim m
        = (optionalQualifier (Text.trim m)).1 ++ (optionalQualifier (Text.trim m)).2 := by
      rw [optionalQualifier]
      cases hq : Call.readQualifier? (Text.trim m) with
      | none => rfl
      | some p => exact Call.eq_append_of_readQualifier? hq
    rw [List.append_assoc _ n, ← hrest, ← hq]
    exact hm
  · rw [optionalQualifier]
    cases hq : Call.readQualifier? (Text.trim m) with
    | none => exact .inl rfl
    | some p => exact .inr (Call.isQualifier_of_readQualifier? hq)

/-- A call in blanks is read as its names with the pieces of its list. -/
theorem readCall?_write {left right q n : List Char} (hl : ∀ c ∈ left, Text.isBlank c = true)
    (hr : ∀ c ∈ right, Text.isBlank c = true) (h : Call.IsHead q n) (raw : List Char) :
    readCall? (left ++ Call.writeCall q n raw ++ right)
      = some ⟨String.ofList q, String.ofList n, Call.splitArguments raw⟩ := by
  have hw : Call.writeCall q n raw = q ++ n ++ '(' :: (raw ++ [')']) := rfl
  have htrim : Text.trim (left ++ Call.writeCall q n raw ++ right) = Call.writeCall q n raw := by
    rw [Text.trim_blanks hl hr, h.trim_writeCall]
  -- without a qualifier the name must not be taken for one
  have hq : optionalQualifier (Call.writeCall q n raw) = (q, n ++ '(' :: (raw ++ [')'])) := by
    obtain ⟨rfl | hq, hn⟩ := h
    · rw [optionalQualifier, hw, List.nil_append, Call.readQualifier?_name hn]
      rfl
    · rw [optionalQualifier, hw, List.append_assoc, Call.readQualifier?_append hq]
      rfl
  have hargs : readArguments? ('(' :: (raw ++ [')'])) = some (Call.splitArguments raw) := by
    rw [readArguments?, Call.readParenthesized?_append]
    · rfl
    · simp
  simp only [readCall?, htrim, hq, Call.readName?_append h.2, hargs, Option.bind_eq_bind,
    Option.bind_some]
  rfl

/-! ## Frames -/

/-- What stands around the arguments of a matcher: inert texts between which every text is the list
of arguments of the same matcher. -/
structure IsFrame (qualifier name : String) (before after : List Char) : Prop where
  isInert_before : Template.IsInert before
  isInert_after : Template.IsInert after
  parse_eq : ∀ raw, parse (String.ofList (before ++ raw ++ after))
    = .ok ⟨qualifier, name, Call.splitArguments raw⟩

/-- No placeholder begins or ends in blanks. -/
theorem isInert_of_blank {cs : List Char} (h : ∀ c ∈ cs, Text.isBlank c = true) :
    Template.IsInert cs := by
  intro c hc
  refine ⟨?_, ?_, ?_⟩ <;> exact Text.ne_of_isBlank (h c hc) (by decide)

/-- Around the list of a matcher stand blanks, the two `@`, its names and its parentheses, which are
a frame. -/
theorem isFrame_of_blank {l l' r r' q n : List Char} (hl : ∀ c ∈ l, Text.isBlank c = true)
    (hl' : ∀ c ∈ l', Text.isBlank c = true) (hr : ∀ c ∈ r, Text.isBlank c = true)
    (hr' : ∀ c ∈ r', Text.isBlank c = true) (h : Call.IsHead q n) :
    IsFrame (String.ofList q) (String.ofList n) (l ++ '@' :: (l' ++ (q ++ n) ++ ['(']))
      (')' :: (r' ++ '@' :: r)) where
  isInert_before := by
    have hil := isInert_of_blank hl
    have hil' := isInert_of_blank hl'
    have hqn := Template.isInert_append.1 h.isInert
    simp [*]
  isInert_after := by
    have hir := isInert_of_blank hr
    have hir' := isInert_of_blank hr'
    simp [*]
  parse_eq raw := by
    have hw : l ++ '@' :: (l' ++ (q ++ n) ++ ['(']) ++ raw ++ ')' :: (r' ++ '@' :: r)
        = l ++ '@' :: (l' ++ Call.writeCall q n raw ++ r' ++ ['@']) ++ r := by
      simp [Call.writeCall]
    rw [parse_eq_ok, String.toList_ofList, hw, inside?_write hl hr]
    exact ⟨_, rfl, readCall?_write hl' hr' h raw⟩

/-- A matcher expression is a frame around its arguments, or is inert and has none. -/
theorem exists_frame_of_parse {e : String} {call : Call} (h : parse e = .ok call) :
    (∃ before after, IsFrame call.qualifier call.name before after
        ∧ e.toList = before ++ argumentList e.toList ++ after)
      ∨ Template.IsInert e.toList ∧ argumentList e.toList = [] ∧ call.args = [] := by
  obtain ⟨m, hm, hc⟩ := parse_eq_ok.1 h
  obtain ⟨l, r, he, hl, hr⟩ := inside?_eq_some hm
  obtain ⟨l', r', q, n, rest, hm', hl', hr', hhead, hq, hn, hargs, hname⟩ := readCall?_eq_some hc
  have hlist : argumentList e.toList = (Call.readParenthesized? rest).getD [] := by
    simp [argumentList, hm, hname]
  cases rest with
  -- without parentheses nothing but names, blanks and the two `@` is there
  | nil =>
    have hil := isInert_of_blank hl
    have hir := isInert_of_blank hr
    have hil' := isInert_of_blank hl'
    have hir' := isInert_of_blank hr'
    have hqn := Template.isInert_append.1 hhead.isInert
    refine .inr ⟨?_, hlist, by simpa [readArguments?] using hargs.symm⟩
    rw [he, hm', List.append_nil]
    simp [*]
  -- the parentheses are read up to the last character in front of the blanks
  | cons x rest =>
    obtain ⟨raw, hraw, -⟩ : ∃ raw, Call.readParenthesized? (x :: rest) = some raw
        ∧ Call.splitArguments raw = call.args := by
      simpa [readArguments?] using hargs
    have hrest := Call.readParenthesized?_eq_some hraw
    refine .inl ⟨_, _, hq ▸ hn ▸ isFrame_of_blank hl hl' hr hr' hhead, ?_⟩
    rw [hlist, hraw, he, hm', hrest]
    simp

/-- The arguments of a matcher are those of the list in its parentheses. -/
theorem args_eq_of_parse {e : String} {call : Call} (h : parse e = .ok call) :
    call.args = Call.splitArguments (argumentList e.toList) := by
  rcases exists_frame_of_parse h with ⟨before, after, hframe, he⟩ | ⟨-, hlist, hargs⟩
  · have hp := hframe.parse_eq (argumentList e.toList)
    rw [← he, String.ofList_toList, h] at hp
    exact congrArg Call.args (Except.ok.inj hp)
  · rw [hlist, hargs]
    rfl

end Matcher
end Rehearsal

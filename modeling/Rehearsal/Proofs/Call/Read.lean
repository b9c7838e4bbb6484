import Rehearsal.Call
import Rehearsal.Proofs.Text.Blank

/-!
# Reading written calls

`IsQualifier` and `IsName` are the two kinds of names that a call begins with. Main statements: a
qualifier, a name and a list in parentheses are read as what they are (`parse?_writeCall`), and a
text without an opening parenthesis is no call (`parse?_eq_none_of_not_mem`).
-/

namespace Rehearsal

/-! ## Characters -/

namespace Text

/-- Below the end of ASCII only the word characters of ASCII are word characters. -/
theorem isWord_eq_false {c : Char} (hn : c.toNat ≤ 127) (h : isAsciiWord c = false) :
    isWord c = false := by
  have : ¬c.toNat > 127 := by omega
  simp [isWord, h, this]

theorem isBlank_eq_false_of_isNameStart {c : Char} (h : isNameStart c = true) :
    isBlank c = false := by
  have hc : 65 ≤ c.toNat ∧ c.toNat ≤ 122 := by
    delta isNameStart Char.isAlpha Char.isUpper Char.isLower at h
    simp only [Bool.or_eq_true, Bool.and_eq_true, decide_eq_true_eq, ge_iff_le,
      UInt32.le_iff_toNat_le] at h
    rcases h with (⟨h₁, h₂⟩ | ⟨h₁, h₂⟩) | rfl
    · exact ⟨h₁, Nat.le_trans h₂ (by decide)⟩
    · exact ⟨Nat.le_trans (by decide) h₁, h₂⟩
    · decide
  simp only [isBlank, Bool.or_eq_false_iff, Bool.and_eq_false_iff, decide_eq_false_iff_not,
    beq_eq_false_iff_ne, ne_eq]
  omega

end Text

namespace Call

/-! ## Names -/

/-- A letter or the low line, then word characters, dots and hyphens, then a colon. -/
def IsQualifier (q : List Char) : Prop :=
  ∃ c body, q = c :: body ++ [':'] ∧ Text.isNameStart c = true
    ∧ ∀ x ∈ body, isQualifierChar x = true

/-- A letter or the low line, then word characters. -/
def IsName (n : List Char) : Prop :=
  ∃ c body, n = c :: body ∧ Text.isNameStart c = true ∧ ∀ x ∈ body, Text.isWord x = true

theorem readQualifier?_append {q : List Char} (h : IsQualifier q) (r : List Char) :
    readQualifier? (q ++ r) = some (q, r) := by
  obtain ⟨c, body, rfl, hc, hb⟩ := h
  have hcolon : isQualifierChar ':' = false := by
    simp [isQualifierChar, Text.isWord_eq_false (c := ':') (by decide) (by decide)]
  have happ : c :: body ++ [':'] ++ r = c :: (body ++ ':' :: r) := by simp
  rw [happ, readQualifier?, if_pos hc, List.dropWhile_append_of_pos hb,
    List.takeWhile_append_of_pos hb]
  simp [hcolon]

theorem readName?_append {n : List Char} (h : IsName n) (r : List Char) :
    readName? (n ++ '(' :: r) = some (n, '(' :: r) := by
  obtain ⟨c, body, rfl, hc, hb⟩ := h
  have hparen : Text.isWord '(' = false := Text.isWord_eq_false (by decide) (by decide)
  rw [List.cons_append, readName?, if_pos hc, List.dropWhile_append_of_pos hb,
    List.takeWhile_append_of_pos hb]
  simp [hparen]

theorem readParenthesized?_append (raw : List Char) :
    readParenthesized? ('(' :: (raw ++ [')'])) = some raw := by
  simp [readParenthesized?]

/-- The written form of a call. -/
def writeCall (q n raw : List Char) : List Char := q ++ n ++ '(' :: (raw ++ [')'])

/-- A call has no blanks at its ends. -/
theorem trim_writeCall {q : List Char} (h : IsQualifier q) (n raw : List Char) :
    Text.trim (writeCall q n raw) = writeCall q n raw := by
  obtain ⟨c, body, rfl, hc, -⟩ := h
  have hr : writeCall (c :: body ++ [':']) n raw
      = (c :: body ++ [':'] ++ n ++ '(' :: raw) ++ [')'] := by simp [writeCall]
  refine Text.trim_eq_self ?_ ?_
  · intro x hx
    obtain rfl : c = x := by simpa [writeCall] using hx
    exact Text.isBlank_eq_false_of_isNameStart hc
  · intro x hx
    rw [hr, List.getLast?_concat] at hx
    obtain rfl : ')' = x := by simpa using hx
    decide

/-- A written call is read as what it is. -/
theorem parse?_writeCall {q n : List Char} (hq : IsQualifier q) (hn : IsName n)
    (raw : List Char) : parse? (writeCall q n raw)
      = some ⟨String.ofList q, String.ofList n, splitArguments raw⟩ := by
  have hw : readQualifier? (writeCall q n raw) = some (q, n ++ '(' :: (raw ++ [')'])) := by
    rw [writeCall, List.append_assoc]
    exact readQualifier?_append hq _
  simp only [parse?, trim_writeCall hq, hw, readName?_append hn, readParenthesized?_append,
    Option.bind_eq_bind, Option.bind_some]
  rfl

/-! ## Texts that are no calls -/

/-- Reading a qualifier loses nothing. -/
theorem eq_append_of_readQualifier? {cs q r : List Char} (h : readQualifier? cs = some (q, r)) :
    cs = q ++ r := by
  cases cs with
  | nil => simp [readQualifier?] at h
  | cons c cs =>
    simp only [readQualifier?] at h
    split at h
    · split at h
      · next rest hd =>
        simp only [Option.some.injEq, Prod.mk.injEq] at h
        obtain ⟨rfl, rfl⟩ := h
        have := List.takeWhile_append_dropWhile (p := isQualifierChar) (l := cs)
        rw [hd] at this
        simp [this]
      · simp at h
    · simp at h

/-- Reading a name loses nothing. -/
theorem eq_append_of_readName? {cs n r : List Char} (h : readName? cs = some (n, r)) :
    cs = n ++ r := by
  cases cs with
  | nil => simp [readName?] at h
  | cons c cs =>
    simp only [readName?] at h
    split at h
    · simp only [Option.some.injEq, Prod.mk.injEq] at h
      obtain ⟨rfl, rfl⟩ := h
      simp [List.takeWhile_append_dropWhile]
    · simp at h

/-- A text without an opening parenthesis is no call. -/
theorem parse?_eq_none_of_not_mem {cs : List Char} (h : '(' ∉ cs) : parse? cs = none := by
  rw [← Option.not_isSome_iff_eq_none, Option.isSome_iff_exists]
  rintro ⟨c, hc⟩
  simp only [parse?, Option.bind_eq_bind, Option.bind_eq_some_iff, Prod.exists] at hc
  obtain ⟨q, r, hq, n, r', hn, raw, hr, -⟩ := hc
  -- what follows the name begins with the parenthesis, and nothing was lost in front of it
  have hmem : '(' ∈ r' := by
    cases r' with
    | nil => simp [readParenthesized?] at hr
    | cons x r' =>
      by_cases hx : x = '('
      · simp [hx]
      · simp [readParenthesized?, hx] at hr
  apply h
  apply Text.mem_of_mem_trim
  rw [eq_append_of_readQualifier? hq, eq_append_of_readName? hn]
  simp [hmem]

/-- A text that does not begin with a name is no call. -/
theorem parse?_eq_none_of_head {c : Char} {cs : List Char} (ht : Text.trim (c :: cs) = c :: cs)
    (h : Text.isNameStart c = false) : parse? (c :: cs) = none := by
  simp [parse?, ht, readQualifier?, h]

end Call
end Rehearsal

import Rehearsal.Text.Blank

/-!
# Blanks around texts

A text is its trimming with blanks around it (`exists_trim`), blanks that are put around it are
taken off again (`trim_blanks`), and around a text without blanks at its ends nothing but the blanks
at the far ends is taken off (`trim_append`). A text is its own trimming exactly if it has no blank
at either end (`trim_eq_self_iff`).
-/

namespace Rehearsal.Text

theorem ne_of_isBlank {c d : Char} (h : isBlank c = true) (hd : isBlank d = false) : c ≠ d := by
  rintro rfl
  rw [hd] at h
  cases h

theorem trimRight_eq (cs : List Char) : trimRight cs = (trimLeft cs.reverse).reverse := rfl

/-! ## What is taken off -/

theorem exists_trimLeft (cs : List Char) :
    ∃ left, cs = left ++ trimLeft cs ∧ ∀ c ∈ left, isBlank c = true :=
  ⟨cs.takeWhile isBlank, List.takeWhile_append_dropWhile.symm,
    List.all_eq_true.1 List.all_takeWhile⟩

theorem exists_trimRight (cs : List Char) :
    ∃ right, cs = trimRight cs ++ right ∧ ∀ c ∈ right, isBlank c = true := by
  obtain ⟨left, h, hl⟩ := exists_trimLeft cs.reverse
  refine ⟨left.reverse, ?_, fun c hc => hl c (List.mem_reverse.1 hc)⟩
  rw [trimRight_eq, ← List.reverse_append, ← h, List.reverse_reverse]

/-- A text is its trimming with blanks around it. -/
theorem exists_trim (cs : List Char) : ∃ left right, cs = left ++ trim cs ++ right
    ∧ (∀ c ∈ left, isBlank c = true) ∧ (∀ c ∈ right, isBlank c = true) := by
  obtain ⟨left, hleft, hl⟩ := exists_trimLeft cs
  obtain ⟨right, hright, hr⟩ := exists_trimRight (trimLeft cs)
  refine ⟨left, right, ?_, hl, hr⟩
  rw [List.append_assoc, trim, ← hright, ← hleft]

theorem mem_of_mem_trim {c : Char} {cs : List Char} (h : c ∈ trim cs) : c ∈ cs := by
  obtain ⟨left, right, hcs, -, -⟩ := exists_trim cs
  rw [hcs]
  exact List.mem_append_left _ (List.mem_append_right _ h)

/-! ## Blanks that are put around a text -/

theorem trim_blanks_append {left : List Char} (h : ∀ c ∈ left, isBlank c = true)
    (cs : List Char) : trim (left ++ cs) = trim cs := by
  rw [trim, trimLeft, List.dropWhile_append_of_pos h]
  rfl

theorem trim_cons_of_isBlank {c : Char} {cs : List Char} (h : isBlank c = true) :
    trim (c :: cs) = trim cs := trim_blanks_append (List.forall_mem_singleton.2 h) cs

theorem trim_append_blanks {right : List Char} (h : ∀ c ∈ right, isBlank c = true)
    (cs : List Char) : trim (cs ++ right) = trim cs := by
  have hright : ∀ cs, trimRight (cs ++ right) = trimRight cs := fun cs => by
    have hreverse : ∀ c ∈ right.reverse, isBlank c = true := fun c hc =>
      h c (List.mem_reverse.1 hc)
    rw [trimRight, List.reverse_append, List.dropWhile_append_of_pos hreverse]
    rfl
  rw [trim, trim, trimLeft, trimLeft, List.dropWhile_append]
  split
  · next hcs =>
    -- the whole text is blank
    rw [List.isEmpty_iff.1 hcs]
    have := trim_blanks_append h []
    rwa [List.append_nil] at this
  · exact hright _

/-- Blanks around a text are taken off. -/
theorem trim_blanks {left right : List Char} (hl : ∀ c ∈ left, isBlank c = true)
    (hr : ∀ c ∈ right, isBlank c = true) (cs : List Char) :
    trim (left ++ cs ++ right) = trim cs := by
  rw [trim_append_blanks hr, trim_blanks_append hl]

theorem trim_trimLeft (cs : List Char) : trim (trimLeft cs) = trim cs := by
  obtain ⟨left, h, hl⟩ := exists_trimLeft cs
  rw [← trim_blanks_append hl (trimLeft cs), ← h]

theorem trim_trimRight (cs : List Char) : trim (trimRight cs) = trim cs := by
  obtain ⟨right, h, hr⟩ := exists_trimRight cs
  rw [← trim_append_blanks hr (trimRight cs), ← h]

/-! ## Ends without blanks -/

theorem head?_of_trimLeft_eq_self {cs : List Char} (h : trimLeft cs = cs) :
    ∀ c ∈ cs.head?, isBlank c = false := by
  cases cs with
  | nil => simp
  | cons c r => simpa using head_trimLeft h

theorem getLast?_of_trimRight_eq_self {cs : List Char} (h : trimRight cs = cs) :
    ∀ c ∈ cs.getLast?, isBlank c = false := by
  have hreverse : trimLeft cs.reverse = cs.reverse := by
    rw [← List.reverse_inj, ← trimRight_eq, h, List.reverse_reverse]
  simpa using head?_of_trimLeft_eq_self hreverse

/-- A text is its own trimming exactly if it has no blank at either end. -/
theorem trim_eq_self_iff {cs : List Char} : trim cs = cs ↔
    (∀ c ∈ cs.head?, isBlank c = false) ∧ ∀ c ∈ cs.getLast?, isBlank c = false := by
  refine ⟨fun h => ?_, fun h => trim_eq_self h.1 h.2⟩
  have hle : cs.length ≤ (trimLeft cs).length := by
    have := length_trimRight_le (trimLeft cs)
    rw [← trim, h] at this
    exact this
  have hleft : trimLeft cs = cs :=
    (List.dropWhile_suffix isBlank).eq_of_length_le hle
  refine ⟨head?_of_trimLeft_eq_self hleft, getLast?_of_trimRight_eq_self ?_⟩
  rw [trim, hleft] at h
  exact h

theorem trimLeft_append {a b : List Char} (h : ∀ c ∈ b.head?, isBlank c = false) :
    trimLeft (a ++ b) = trimLeft a ++ b := by
  have hkeep : trimLeft b = b := trimLeft_eq_self h
  rw [trimLeft, trimLeft, List.dropWhile_append]
  split
  · next ha => rw [List.isEmpty_iff.1 ha]; exact hkeep
  · rfl

theorem trimRight_append {a b : List Char} (h : ∀ c ∈ a.getLast?, isBlank c = false) :
    trimRight (a ++ b) = a ++ trimRight b := by
  rw [trimRight_eq, List.reverse_append, trimLeft_append (by simpa using h), List.reverse_append,
    List.reverse_reverse, trimRight_eq]

/-- Around a text without blanks at its ends the blanks at the far ends are taken off. -/
theorem trim_append {a m b : List Char} (hm : m ≠ []) (hl : ∀ c ∈ m.head?, isBlank c = false)
    (hr : ∀ c ∈ m.getLast?, isBlank c = false) :
    trim (a ++ m ++ b) = trimLeft a ++ m ++ trimRight b := by
  have hhead : ∀ c ∈ (m ++ b).head?, isBlank c = false := by
    obtain ⟨c, cs, rfl⟩ := List.exists_cons_of_ne_nil hm
    exact hl
  have hlast : ∀ c ∈ (trimLeft a ++ m).getLast?, isBlank c = false := by
    have hsome := List.getLast?_eq_some_getLast hm
    rw [List.getLast?_append, hsome, Option.some_or, ← hsome]
    exact hr
  rw [List.append_assoc, trim, trimLeft_append hhead, ← List.append_assoc, trimRight_append hlast]

end Rehearsal.Text

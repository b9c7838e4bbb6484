import Rehearsal.Double.Decimal
import Mathlib.Data.List.TakeDrop

/-!
# Digits of natural numbers

A number is the value of its digits (`valueOf_digitsOf`), which begin with a zero only if they are
that zero alone (`head_digitsOf`), and digits are read up to the first character that is none
(`spanDigits_append`).
-/

namespace Rehearsal

namespace Decimal

theorem isDigit_of_mem_digitsOf {n : Nat} : ∀ c ∈ digitsOf n, c.isDigit = true := fun _ hc =>
  Nat.isDigit_of_mem_toDigits (by omega) (by omega) hc

theorem digit_lt {c : Char} (h : c.isDigit = true) : c.toNat - '0'.toNat < 10 := by
  obtain ⟨-, hle⟩ := Char.isDigit_iff_toNat.1 h
  have hzero : '0'.toNat = 48 := rfl
  have hnine : '9'.toNat = 57 := rfl
  omega

theorem valueOf_eq_ofDigitChars (acc : Nat) (ds : List Char) :
    valueOf acc ds = Nat.ofDigitChars 10 ds acc := Nat.ofDigitChars_eq_foldl.symm

/-- A number is the value of its digits. -/
theorem valueOf_digitsOf (n : Nat) : valueOf 0 (digitsOf n) = n := by
  rw [valueOf_eq_ofDigitChars]
  exact Nat.ofDigitChars_ten_toDigits

/-- Digits behind a number make one that is smaller than the next number with zeros behind it. -/
theorem valueOf_lt (acc : Nat) {ds : List Char} (h : ∀ c ∈ ds, c.isDigit = true) :
    valueOf acc ds < (acc + 1) * Nat.pow 10 ds.length := by
  induction ds generalizing acc with
  | nil => exact Nat.lt_of_lt_of_eq (Nat.lt_succ_self acc) (Nat.mul_one _).symm
  | cons c ds ih =>
    have hc := digit_lt (h c (by simp))
    calc valueOf (10 * acc + (c.toNat - '0'.toNat)) ds
        < (10 * acc + (c.toNat - '0'.toNat) + 1) * Nat.pow 10 ds.length :=
          ih _ fun d hd => h d (by simp [hd])
      _ ≤ (acc + 1) * 10 * Nat.pow 10 ds.length := Nat.mul_le_mul_right _ (by omega)
      _ = (acc + 1) * Nat.pow 10 (ds.length + 1) := by
        rw [Nat.mul_assoc, Nat.mul_comm 10]
        rfl

/-- The first digit of a positive number is no zero. -/
theorem head_digitsOf {n : Nat} (h : 0 < n) : ∃ c ds, digitsOf n = c :: ds ∧ c ≠ '0' := by
  induction n using Nat.strongRecOn with
  | ind n ih =>
    rcases Nat.lt_or_ge n 10 with hn | hn
    · have hdigit : ∀ d < 10, 0 < d → d.digitChar ≠ '0' := by decide
      exact ⟨n.digitChar, [], Nat.toDigits_of_lt_base hn, hdigit n hn h⟩
    · obtain ⟨c, ds, hds, hc⟩ := ih (n / 10) (by omega) (by omega)
      refine ⟨c, ds ++ [(n % 10).digitChar], ?_, hc⟩
      rw [digitsOf, Nat.toDigits_of_base_le (by omega) hn, ← digitsOf, hds, List.cons_append]

end Decimal

namespace Double

/-- No digit stands at the start of the text. -/
def NoDigitFirst (cs : List Char) : Prop := ∀ c ∈ cs.head?, c.isDigit = false

theorem spanDigits_eq (cs : List Char) :
    spanDigits cs = (cs.takeWhile Char.isDigit, cs.dropWhile Char.isDigit) :=
  List.span_eq_takeWhile_dropWhile _ cs

/-- Digits are read up to the first character that is none. -/
theorem spanDigits_append {ds r : List Char} (hd : ∀ c ∈ ds, c.isDigit = true)
    (hr : NoDigitFirst r) : spanDigits (ds ++ r) = (ds, r) := by
  have ht : r.takeWhile Char.isDigit = [] ∧ r.dropWhile Char.isDigit = r := by
    cases r with
    | nil => exact ⟨rfl, rfl⟩
    | cons c r => simp [hr c rfl]
  rw [spanDigits_eq, List.takeWhile_append_of_pos hd, List.dropWhile_append_of_pos hd, ht.1, ht.2,
    List.append_nil]

theorem spanDigits_suffix (cs : List Char) : (spanDigits cs).2 <:+ cs := by
  rw [spanDigits_eq]
  exact List.dropWhile_suffix _

/-- What follows a text without a digit changes nothing of the digits at its start. -/
theorem spanDigits_append_right {cs ds r' r : List Char} (h : spanDigits cs = (ds, r'))
    (hr : NoDigitFirst r) : spanDigits (cs ++ r) = (ds, r' ++ r) := by
  rw [spanDigits_eq] at h
  cases h
  have hd : ∀ c ∈ cs.takeWhile Char.isDigit, c.isDigit = true :=
    List.all_eq_true.1 List.all_takeWhile
  have hrest : NoDigitFirst (cs.dropWhile Char.isDigit ++ r) := by
    intro c hc
    have hnot := List.head?_dropWhile_not Char.isDigit cs
    cases hs : cs.dropWhile Char.isDigit with
    | nil =>
      rw [hs] at hc
      exact hr c hc
    | cons d ds =>
      rw [hs] at hc hnot
      cases hc
      simpa using hnot
  rw [← spanDigits_append hd hrest, ← List.append_assoc, List.takeWhile_append_dropWhile]

end Double
end Rehearsal

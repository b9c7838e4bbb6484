import Mathlib.Algebra.Group.Nat.Defs
import Rehearsal.Condition
import Rehearsal.Proofs.Charset.Utf8

/-!
# Texts in the order of their bytes

Texts are compared character by character, and the order of characters is that of their code points.
In UTF-8 it is the order of the bytes as well: the more bytes a character has, the greater its first
byte, and with as many bytes the bytes are the digits of the code point in base 64. Main statement:
`compare_encode`.
-/

namespace Rehearsal

namespace Text.Utf8

/-! ## Digits -/

theorem compare_add_left (k m n : Nat) : compare (k + m) (k + n) = compare m n := by
  rcases Nat.lt_trichotomy m n with h | rfl | h
  · rw [Nat.compare_eq_lt.2 h, Nat.compare_eq_lt.2 (by omega)]
  · rw [Nat.compare_eq_eq.2 rfl, Nat.compare_eq_eq.2 rfl]
  · rw [Nat.compare_eq_gt.2 h, Nat.compare_eq_gt.2 (by omega)]

/-- The lowest digit of a number counts after the others. -/
theorem compare_digits {k q r q' r' : Nat} (hr : r < k) (hr' : r' < k) :
    compare (r + k * q) (r' + k * q') = (compare q q').then (compare r r') := by
  rcases Nat.lt_trichotomy q q' with h | rfl | h
  · have hmul : k * (q + 1) ≤ k * q' := Nat.mul_le_mul_left k h
    rw [Nat.mul_succ] at hmul
    rw [Nat.compare_eq_lt.2 h, Nat.compare_eq_lt.2 (by omega)]
    rfl
  · rw [Nat.add_comm r, Nat.add_comm r', compare_add_left, Nat.compare_eq_eq.2 rfl,
      Ordering.eq_then]
  · have hmul : k * (q' + 1) ≤ k * q := Nat.mul_le_mul_left k h
    rw [Nat.mul_succ] at hmul
    rw [Nat.compare_eq_gt.2 h, Nat.compare_eq_gt.2 (by omega)]
    rfl

theorem compare_ofNat {m n : Nat} (hm : m < 256) (hn : n < 256) :
    compare (UInt8.ofNat m) (UInt8.ofNat n) = compare m n := by
  have hlt : UInt8.ofNat m < UInt8.ofNat n ↔ m < n := UInt8.ofNat_lt_iff_lt hm hn
  have heq : UInt8.ofNat m = UInt8.ofNat n ↔ m = n := by
    rw [← UInt8.toNat_inj, toNat_ofNat_of_lt hm, toNat_ofNat_of_lt hn]
  show compareOfLessAndEq _ _ = compareOfLessAndEq _ _
  simp only [compareOfLessAndEq, hlt, heq]

/-! ## Bytes of a character -/

/-- The bytes behind the first one: the last `count` digits of a code point in base 64. -/
def following : (count n : Nat) → Bytes
  | 0, _ => []
  | count + 1, n => .ofNat (0x80 + n / 64 ^ count % 64) :: following count n

/-- Bytes that follow are in the order of the digits that they stand for. -/
theorem compare_following (count m n : Nat) (x y : Bytes) :
    compare (following count m ++ x) (following count n ++ y)
      = (compare (m % 64 ^ count) (n % 64 ^ count)).then (compare x y) := by
  induction count with
  | zero => simp [following, Nat.mod_one]
  | succ count ih =>
    have hpos : 0 < 64 ^ count := Nat.pow_pos (by decide)
    rw [following, following, List.cons_append, List.cons_append, List.compare_cons_cons, ih,
      compare_ofNat (by omega) (by omega), compare_add_left, Nat.mod_pow_succ, Nat.mod_pow_succ,
      compare_digits (Nat.mod_lt _ hpos) (Nat.mod_lt _ hpos), Ordering.then_assoc]

/-- The characters of one number of bytes: how many bytes follow, what the first one is counted
from, and the bounds of the code points. -/
structure Width where
  count : Nat
  base : Nat
  low : Nat
  high : Nat

def widths : List Width :=
  [⟨0, 0, 0, 0x80⟩, ⟨1, 0xC0, 0x80, 0x800⟩, ⟨2, 0xE0, 0x800, 0x10000⟩,
    ⟨3, 0xF0, 0x10000, 0x110000⟩]

/-- The first byte of a character with this width. -/
def Width.lead (w : Width) (n : Nat) : Nat := w.base + n / 64 ^ w.count

theorem exists_width (c : Char) : ∃ w ∈ widths, w.low ≤ c.toNat ∧ c.toNat < w.high
    ∧ String.utf8EncodeChar c = .ofNat (w.lead c.toNat) :: following w.count c.toNat := by
  have hv := isValid_toNat c
  rcases Nat.lt_or_ge c.toNat 0x80 with h₁ | h₁
  · exact ⟨⟨0, 0, 0, 0x80⟩, by simp [widths], Nat.zero_le _, h₁,
      by simp [encodeChar_one h₁, Width.lead, following]⟩
  rcases Nat.lt_or_ge c.toNat 0x800 with h₂ | h₂
  · exact ⟨⟨1, 0xC0, 0x80, 0x800⟩, by simp [widths], h₁, h₂,
      by simp [encodeChar_two h₁ h₂, Width.lead, following]⟩
  rcases Nat.lt_or_ge c.toNat 0x10000 with h₃ | h₃
  · exact ⟨⟨2, 0xE0, 0x800, 0x10000⟩, by simp [widths], h₂, h₃,
      by simp [encodeChar_three h₂ h₃, Width.lead, following]⟩
  · exact ⟨⟨3, 0xF0, 0x10000, 0x110000⟩, by simp [widths], h₃, by simp only; omega,
      by simp [encodeChar_four h₃, Width.lead, following]⟩

theorem Width.lead_lt {w : Width} (hw : w ∈ widths) {n : Nat} (h : n < w.high) :
    w.lead n < 256 := by
  have hbound : ∀ w ∈ widths, w.base + (w.high - 1) / 64 ^ w.count < 256 := by decide
  have hle : n / 64 ^ w.count ≤ (w.high - 1) / 64 ^ w.count :=
    Nat.div_le_div_right (Nat.le_sub_one_of_lt h)
  exact Nat.lt_of_le_of_lt (Nat.add_le_add_left hle _) (hbound w hw)

/-- A character with more bytes is greater, and so is its first byte. -/
theorem lead_lt_lead {w w' : Width} (hw : w ∈ widths) (hw' : w' ∈ widths)
    (h : w.count < w'.count) {m n : Nat} (hm : m < w.high) (hn : w'.low ≤ n) :
    m < n ∧ w.lead m < w'.lead n := by
  have hbound : ∀ w ∈ widths, ∀ w' ∈ widths, w.count < w'.count → w.high ≤ w'.low
      ∧ w.base + (w.high - 1) / 64 ^ w.count < w'.base + w'.low / 64 ^ w'.count := by decide
  obtain ⟨hrange, hlead⟩ := hbound w hw w' hw' h
  have hm' : m / 64 ^ w.count ≤ (w.high - 1) / 64 ^ w.count :=
    Nat.div_le_div_right (Nat.le_sub_one_of_lt hm)
  have hn' : w'.low / 64 ^ w'.count ≤ n / 64 ^ w'.count := Nat.div_le_div_right hn
  exact ⟨by omega, by simp only [Width.lead]; omega⟩

/-- Characters are in the order of their bytes. -/
theorem compare_encodeChar_append (c d : Char) (x y : Bytes) :
    compare (String.utf8EncodeChar c ++ x) (String.utf8EncodeChar d ++ y)
      = (compare c.toNat d.toNat).then (compare x y) := by
  obtain ⟨w, hw, hlow, hhigh, hc⟩ := exists_width c
  obtain ⟨w', hw', hlow', hhigh', hd⟩ := exists_width d
  rw [hc, hd, List.cons_append, List.cons_append, List.compare_cons_cons,
    compare_ofNat (Width.lead_lt hw hhigh) (Width.lead_lt hw' hhigh')]
  rcases Nat.lt_trichotomy w.count w'.count with h | h | h
  · obtain ⟨hlt, hlead⟩ := lead_lt_lead hw hw' h hhigh hlow'
    rw [Nat.compare_eq_lt.2 hlt, Nat.compare_eq_lt.2 hlead]
    rfl
  · have hsame : ∀ w ∈ widths, ∀ w' ∈ widths, w.count = w'.count → w.base = w'.base := by decide
    have hpos : 0 < 64 ^ w.count := Nat.pow_pos (by decide)
    have hdigits : compare c.toNat d.toNat
        = (compare (c.toNat / 64 ^ w.count) (d.toNat / 64 ^ w.count)).then
          (compare (c.toNat % 64 ^ w.count) (d.toNat % 64 ^ w.count)) := by
      rw [← compare_digits (Nat.mod_lt c.toNat hpos) (Nat.mod_lt d.toNat hpos), Nat.mod_add_div,
        Nat.mod_add_div]
    rw [Width.lead, Width.lead, ← h, ← hsame w hw w' hw' h, compare_add_left, compare_following,
      hdigits, Ordering.then_assoc]
  · obtain ⟨hlt, hlead⟩ := lead_lt_lead hw' hw h hhigh' hlow
    rw [Nat.compare_eq_gt.2 hlt, Nat.compare_eq_gt.2 hlead]
    rfl

/-- The order of texts by their characters is that of their bytes. -/
theorem compare_encode (a b : List Char) :
    compare (encode a) (encode b) = Comparison.orderTexts a b := by
  induction a generalizing b with
  | nil =>
    cases b with
    | nil => rfl
    | cons d ds =>
      obtain ⟨w, -, -, -, hd⟩ := exists_width d
      rw [encode_cons, hd]
      rfl
  | cons c cs ih =>
    cases b with
    | nil =>
      obtain ⟨w, -, -, -, hc⟩ := exists_width c
      rw [encode_cons, hc]
      rfl
    | cons d ds =>
      rw [encode_cons, encode_cons, compare_encodeChar_append, ih, Comparison.orderTexts]

end Text.Utf8
end Rehearsal

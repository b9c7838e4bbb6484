import Rehearsal.Text.Utf8

/-!
# Reading UTF-8 back

A character of one byte stands for itself. Every other one has a leading byte, which `lead?` knows,
and bytes behind it that give six bits each; that the form is the shortest one, and no surrogate, is
seen at the second byte. Main statements: a character is read from its encoding (`readChar_encode`)
and from nothing else (`eq_encode_of_readChar`), and so is a text (`decode?_eq_ok`).
-/

namespace Rehearsal.Text

/-- No character is a surrogate. -/
theorem isValid_toNat (c : Char) :
    c.toNat < 0xD800 ∨ 0xDFFF < c.toNat ∧ c.toNat < 0x110000 := c.valid

/-- Every number of a character is that of the character it makes. -/
theorem toNat_ofNat {n : Nat} (h : n < 0xD800 ∨ 0xDFFF < n ∧ n < 0x110000) :
    (Char.ofNat n).toNat = n := by
  have hn : n.isValidChar := h
  rw [Char.ofNat, dif_pos hn]
  rfl

namespace Utf8

/-! ## The bytes of a character -/

section
variable {c : Char}

/-- Characters of ASCII are their own bytes. -/
theorem encodeChar_one (h : c.toNat < 0x80) : String.utf8EncodeChar c = [.ofNat c.toNat] := by
  have h₁ : c.val.toNat ≤ 0x7F := Nat.lt_succ_iff.1 h
  rw [String.utf8EncodeChar, if_pos h₁]
  rfl

/-- From U+0080 on a character takes two bytes. -/
theorem encodeChar_two (h₁ : 0x80 ≤ c.toNat) (h₂ : c.toNat < 0x800) :
    String.utf8EncodeChar c = [.ofNat (0xC0 + c.toNat / 64), .ofNat (0x80 + c.toNat % 64)] := by
  simp only [String.utf8EncodeChar, Char.toNat] at *
  have h₃ : 0xC0 + c.val.toNat / 64 = c.val.toNat / 64 % 32 + 192 := by omega
  rw [if_neg (by omega), if_pos (by omega), h₃, Nat.add_comm 0x80]

/-- From U+0800 on it takes three. -/
theorem encodeChar_three (h₁ : 0x800 ≤ c.toNat) (h₂ : c.toNat < 0x10000) :
    String.utf8EncodeChar c = [.ofNat (0xE0 + c.toNat / 4096),
      .ofNat (0x80 + c.toNat / 64 % 64), .ofNat (0x80 + c.toNat % 64)] := by
  simp only [String.utf8EncodeChar, Char.toNat] at *
  have h₃ : 0xE0 + c.val.toNat / 4096 = c.val.toNat / 4096 % 16 + 224 := by omega
  rw [if_neg (by omega), if_neg (by omega), if_pos (by omega), h₃, Nat.add_comm 0x80,
    Nat.add_comm 0x80]

/-- From U+10000 on it takes four. -/
theorem encodeChar_four (h : 0x10000 ≤ c.toNat) :
    String.utf8EncodeChar c = [.ofNat (0xF0 + c.toNat / 262144),
      .ofNat (0x80 + c.toNat / 4096 % 64), .ofNat (0x80 + c.toNat / 64 % 64),
      .ofNat (0x80 + c.toNat % 64)] := by
  have hv := isValid_toNat c
  simp only [String.utf8EncodeChar, Char.toNat] at *
  have h₃ : 0xF0 + c.val.toNat / 262144 = c.val.toNat / 262144 % 8 + 240 := by omega
  rw [if_neg (by omega), if_neg (by omega), if_neg (by omega), h₃, Nat.add_comm 0x80,
    Nat.add_comm 0x80, Nat.add_comm 0x80]

end

/-! ## Leading bytes -/

/-- The first byte of two gives five bits. -/
theorem lead?_two {q : Nat} (h₁ : 2 ≤ q) (h₂ : q < 32) :
    lead? (0xC0 + q) = some (1, q, 0x80, 0xBF) := by
  rw [lead?, if_pos (by omega), Nat.add_sub_cancel_left]

/-- Behind the first byte of three the second one is no lower than the shortest form has it, and no
higher than the last code point before the surrogates has it. -/
theorem lead?_three : ∀ q < 16, lead? (0xE0 + q)
    = some (2, q, if q = 0 then 0xA0 else 0x80, if q = 13 then 0x9F else 0xBF) := by decide

/-- The second byte of four keeps to the shortest form and to the last code point. -/
theorem lead?_four : ∀ q < 5, lead? (0xF0 + q)
    = some (3, q, if q = 0 then 0x90 else 0x80, if q = 4 then 0x8F else 0xBF) := by decide

/-- There are no other leading bytes. -/
theorem lead?_isSome {b : Nat} (h : (lead? b).isSome) :
    (∃ q < 32, 2 ≤ q ∧ b = 0xC0 + q) ∨ (∃ q < 16, b = 0xE0 + q) ∨ ∃ q < 5, b = 0xF0 + q := by
  -- outside of these bounds no branch of the table is taken
  have hb : 0xC2 ≤ b ∧ b ≤ 0xF4 := by
    refine Decidable.byContradiction fun hb => ?_
    have hnone : lead? b = none := by
      unfold lead?
      iterate 7 rw [if_neg (by omega)]
    simp [hnone] at h
  rcases Nat.lt_or_ge b 0xE0 with h₁ | h₁
  · exact .inl ⟨b - 0xC0, by omega, by omega, by omega⟩
  · rcases Nat.lt_or_ge b 0xF0 with h₂ | h₂
    · exact .inr (.inl ⟨b - 0xE0, by omega, by omega⟩)
    · exact .inr (.inr ⟨b - 0xF0, by omega, by omega⟩)

/-! ## Following bytes -/

section
variable {count acc taken low high n : Nat} {bs r : Bytes}

theorem readTail_zero_eq_ok : readTail 0 acc taken low high bs = .ok (n, r) ↔ n = acc ∧ r = bs := by
  simp [readTail, eq_comm]

/-- A following byte lies between two bounds, which are narrower for the first of them. -/
theorem readTail_succ_eq_ok : readTail (count + 1) acc taken low high bs = .ok (n, r)
    ↔ ∃ b bs', bs = b :: bs' ∧ (low ≤ b.toNat ∧ b.toNat ≤ high)
      ∧ readTail count (64 * acc + (b.toNat - 0x80)) (taken + 1) 0x80 0xBF bs' = .ok (n, r) := by
  cases bs with
  | nil => simp [readTail]
  | cons b bs =>
    rw [readTail]
    constructor
    · intro h
      split at h
      · next hb => exact ⟨b, bs, rfl, hb, h⟩
      · cases h
    · rintro ⟨b', bs', he, hb, h⟩
      cases he
      rwa [if_pos hb]

end

/-! ## Characters -/

section
variable {b : UInt8} {bs r : Bytes} {c : Char}

/-- An ASCII byte is a character. -/
theorem readChar_one (h : b < 0x80) : readChar (b :: bs) = .ok (Char.ofNat b.toNat, bs) := by
  rw [readChar, if_pos h]

/-- A character of several bytes is read from them, if they follow as its leading byte has it. -/
theorem readChar_eq_ok_of_lead {count acc low high : Nat} (hb : 0x80 ≤ b)
    (hl : lead? b.toNat = some (count, acc, low, high)) :
    readChar (b :: bs) = .ok (c, r)
      ↔ ∃ n, readTail count acc 1 low high bs = .ok (n, r) ∧ c = Char.ofNat n := by
  rw [readChar, if_neg (UInt8.not_lt.2 hb), hl]
  show (readTail count acc 1 low high bs).map (fun p => (Char.ofNat p.1, p.2)) = .ok (c, r) ↔ _
  rcases readTail count acc 1 low high bs with e | ⟨n, r'⟩
  · simp [Except.map]
  · simp only [Except.map, Except.ok.injEq, Prod.mk.injEq]
    constructor
    · rintro ⟨rfl, rfl⟩
      exact ⟨n, ⟨rfl, rfl⟩, rfl⟩
    · rintro ⟨_, ⟨rfl, rfl⟩, rfl⟩
      exact ⟨rfl, rfl⟩

/-- Leading bytes are beyond ASCII. -/
theorem le_of_toNat_eq {k q : Nat} (h : b.toNat = k + q) (hk : 0x80 ≤ k) : 0x80 ≤ b :=
  UInt8.le_iff_toNat_le.2 (by rw [h]; exact Nat.le_add_right_of_le hk)

/-- Two bytes give five and six bits. -/
theorem readChar_two {q : Nat} (h₁ : 2 ≤ q) (h₂ : q < 32) (hb : b.toNat = 0xC0 + q) :
    readChar (b :: bs) = .ok (c, r)
      ↔ ∃ x, bs = x :: r ∧ (0x80 ≤ x.toNat ∧ x.toNat ≤ 0xBF)
        ∧ c = Char.ofNat (64 * q + (x.toNat - 0x80)) := by
  rw [readChar_eq_ok_of_lead (le_of_toNat_eq hb (by decide)) (hb ▸ lead?_two h₁ h₂)]
  simp only [readTail_succ_eq_ok, readTail_zero_eq_ok]
  constructor
  · rintro ⟨n, ⟨x, _, rfl, hx, hn, rfl⟩, hc⟩
    exact ⟨x, rfl, hx, hn ▸ hc⟩
  · rintro ⟨x, rfl, hx, hc⟩
    exact ⟨_, ⟨x, r, rfl, hx, rfl, rfl⟩, hc⟩

/-- Three bytes give four bits and twice six. -/
theorem readChar_three {q : Nat} (hq : q < 16) (hb : b.toNat = 0xE0 + q) :
    readChar (b :: bs) = .ok (c, r)
      ↔ ∃ x y, bs = x :: y :: r
        ∧ ((if q = 0 then 0xA0 else 0x80) ≤ x.toNat ∧ x.toNat ≤ if q = 13 then 0x9F else 0xBF)
        ∧ (0x80 ≤ y.toNat ∧ y.toNat ≤ 0xBF)
        ∧ c = Char.ofNat (64 * (64 * q + (x.toNat - 0x80)) + (y.toNat - 0x80)) := by
  rw [readChar_eq_ok_of_lead (le_of_toNat_eq hb (by decide)) (hb ▸ lead?_three q hq)]
  simp only [readTail_succ_eq_ok, readTail_zero_eq_ok]
  constructor
  · rintro ⟨n, ⟨x, _, rfl, hx, y, _, rfl, hy, hn, rfl⟩, hc⟩
    exact ⟨x, y, rfl, hx, hy, hn ▸ hc⟩
  · rintro ⟨x, y, rfl, hx, hy, hc⟩
    exact ⟨_, ⟨x, _, rfl, hx, y, _, rfl, hy, rfl, rfl⟩, hc⟩

/-- Four bytes give three bits and three times six. -/
theorem readChar_four {q : Nat} (hq : q < 5) (hb : b.toNat = 0xF0 + q) :
    readChar (b :: bs) = .ok (c, r)
      ↔ ∃ x y z, bs = x :: y :: z :: r
        ∧ ((if q = 0 then 0x90 else 0x80) ≤ x.toNat ∧ x.toNat ≤ if q = 4 then 0x8F else 0xBF)
        ∧ (0x80 ≤ y.toNat ∧ y.toNat ≤ 0xBF) ∧ (0x80 ≤ z.toNat ∧ z.toNat ≤ 0xBF)
        ∧ c = Char.ofNat (64 * (64 * (64 * q + (x.toNat - 0x80)) + (y.toNat - 0x80))
          + (z.toNat - 0x80)) := by
  rw [readChar_eq_ok_of_lead (le_of_toNat_eq hb (by decide)) (hb ▸ lead?_four q hq)]
  simp only [readTail_succ_eq_ok, readTail_zero_eq_ok]
  constructor
  · rintro ⟨n, ⟨x, _, rfl, hx, y, _, rfl, hy, z, _, rfl, hz, hn, rfl⟩, hc⟩
    exact ⟨x, y, z, rfl, hx, hy, hz, hn ▸ hc⟩
  · rintro ⟨x, y, z, rfl, hx, hy, hz, hc⟩
    exact ⟨_, ⟨x, _, rfl, hx, y, _, rfl, hy, z, _, rfl, hz, rfl, rfl⟩, hc⟩

end

theorem ofNat_eq {b : UInt8} {n : Nat} (h : n = b.toNat) : UInt8.ofNat n = b := by
  rw [h, UInt8.ofNat_toNat]

theorem toNat_ofNat_of_lt {n : Nat} (h : n < 256) : (UInt8.ofNat n).toNat = n :=
  UInt8.toNat_ofNat_of_lt' h

/-- A character is read from its encoding. -/
theorem readChar_encode (c : Char) (r : Bytes) :
    readChar (String.utf8EncodeChar c ++ r) = .ok (c, r) := by
  have hv := isValid_toNat c
  have hc {n : Nat} (h : n = c.toNat) : c = Char.ofNat n := by rw [h, Char.ofNat_toNat]
  -- by the number of bytes that the character takes
  rcases Nat.lt_or_ge c.toNat 0x80 with h₁ | h₁
  · have hb : (UInt8.ofNat c.toNat).toNat = c.toNat := toNat_ofNat_of_lt (by omega)
    have hlt : UInt8.ofNat c.toNat < 0x80 := UInt8.lt_iff_toNat_lt.2 (by rw [hb]; exact h₁)
    rw [encodeChar_one h₁, List.singleton_append, readChar_one hlt, hb, ← hc rfl]
  -- the last six bits of a number make a following byte
  have hlow {n : Nat} : (UInt8.ofNat (0x80 + n % 64)).toNat = 0x80 + n % 64 :=
    toNat_ofNat_of_lt (by omega)
  rcases Nat.lt_or_ge c.toNat 0x800 with h₂ | h₂
  · rw [encodeChar_two h₁ h₂, List.cons_append, List.singleton_append,
      readChar_two (by omega) (by omega) (toNat_ofNat_of_lt (by omega))]
    refine ⟨_, rfl, ?_, hc ?_⟩ <;> rw [hlow] <;> omega
  rcases Nat.lt_or_ge c.toNat 0x10000 with h₃ | h₃
  · -- the second byte keeps to its bounds, since a character is no surrogate
    rw [encodeChar_three h₂ h₃, List.cons_append, List.cons_append, List.singleton_append,
      readChar_three (by omega) (toNat_ofNat_of_lt (by omega))]
    refine ⟨_, _, rfl, ?_, ?_, hc ?_⟩ <;> simp only [hlow]
    · split <;> split <;> omega
    · omega
    · omega
  · rw [encodeChar_four h₃, List.cons_append, List.cons_append, List.cons_append,
      List.singleton_append, readChar_four (by omega) (toNat_ofNat_of_lt (by omega))]
    refine ⟨_, _, _, rfl, ?_, ?_, ?_, hc ?_⟩ <;> simp only [hlow]
    · split <;> split <;> omega
    · omega
    · omega
    · omega

/-- What a character is read from is its encoding. -/
theorem eq_encode_of_readChar {bs r : Bytes} {c : Char} (h : readChar bs = .ok (c, r)) :
    bs = String.utf8EncodeChar c ++ r := by
  cases bs with
  | nil => cases h
  | cons b bs =>
    rcases UInt8.lt_or_le b 0x80 with hb | hb
    · have hlt : b.toNat < 0x80 := hb
      have hn := toNat_ofNat (.inl (Nat.lt_trans hlt (by decide)))
      rw [readChar_one hb] at h
      cases h
      rw [encodeChar_one (by rwa [hn]), hn, UInt8.ofNat_toNat, List.singleton_append]
    · -- a byte beyond ASCII must lead two, three or four bytes
      have hl : (lead? b.toNat).isSome := by
        rw [readChar, if_neg (UInt8.not_lt.2 hb)] at h
        cases hl : lead? b.toNat with
        | none => rw [hl] at h; cases h
        | some p => rfl
      rcases lead?_isSome hl with ⟨q, h₁, h₂, hq⟩ | ⟨q, h₁, hq⟩ | ⟨q, h₁, hq⟩
      · obtain ⟨x, rfl, hx, hc⟩ := (readChar_two h₂ h₁ hq).1 h
        have hn : c.toNat = 64 * q + (x.toNat - 0x80) := by rw [hc, toNat_ofNat (by omega)]
        rw [encodeChar_two (by omega) (by omega), ofNat_eq (b := b) (by omega),
          ofNat_eq (b := x) (by omega), List.cons_append, List.singleton_append]
      · obtain ⟨x, y, rfl, hx, hy, hc⟩ := (readChar_three h₁ hq).1 h
        -- the bounds of the second byte keep the code point in its range
        have hq₀ : q = 0 → 0xA0 ≤ x.toNat := fun h₀ => by rw [if_pos h₀] at hx; exact hx.1
        have hq₁ : q = 13 → x.toNat ≤ 0x9F := fun h₀ => by rw [if_pos h₀] at hx; exact hx.2
        have hx' : 0x80 ≤ x.toNat ∧ x.toNat ≤ 0xBF := by
          refine ⟨Nat.le_trans ?_ hx.1, Nat.le_trans hx.2 ?_⟩ <;> split <;> decide
        have hn : c.toNat = 64 * (64 * q + (x.toNat - 0x80)) + (y.toNat - 0x80) := by
          rw [hc, toNat_ofNat (by omega)]
        rw [encodeChar_three (by omega) (by omega), ofNat_eq (b := b) (by omega),
          ofNat_eq (b := x) (by omega), ofNat_eq (b := y) (by omega), List.cons_append,
          List.cons_append, List.singleton_append]
      · obtain ⟨x, y, z, rfl, hx, hy, hz, hc⟩ := (readChar_four h₁ hq).1 h
        have hq₀ : q = 0 → 0x90 ≤ x.toNat := fun h₀ => by rw [if_pos h₀] at hx; exact hx.1
        have hq₁ : q = 4 → x.toNat ≤ 0x8F := fun h₀ => by rw [if_pos h₀] at hx; exact hx.2
        have hx' : 0x80 ≤ x.toNat ∧ x.toNat ≤ 0xBF := by
          refine ⟨Nat.le_trans ?_ hx.1, Nat.le_trans hx.2 ?_⟩ <;> split <;> decide
        have hn : c.toNat = 64 * (64 * (64 * q + (x.toNat - 0x80)) + (y.toNat - 0x80))
            + (z.toNat - 0x80) := by
          rw [hc, toNat_ofNat (by omega)]
        rw [encodeChar_four (by omega), ofNat_eq (b := b) (by omega),
          ofNat_eq (b := x) (by omega), ofNat_eq (b := y) (by omega), ofNat_eq (b := z) (by omega),
          List.cons_append, List.cons_append, List.cons_append, List.singleton_append]

/-! ## Texts -/

@[simp] theorem encode_nil : encode [] = [] := rfl

@[simp] theorem encode_cons (c : Char) (cs : List Char) :
    encode (c :: cs) = String.utf8EncodeChar c ++ encode cs := List.flatMap_cons

section
variable {offset : Nat} {bs r : Bytes} {c : Char}

/-- A text is read character by character. -/
theorem decodeFrom_of_readChar (h : readChar bs = .ok (c, r)) :
    decodeFrom offset bs = (decodeFrom (offset + c.utf8Size) r).map (c :: ·) := by
  cases bs with
  | nil => cases h
  | cons b bs =>
    rw [decodeFrom]
    split
    · next he => rw [h] at he; cases he
    · next c' r' he =>
      rw [h] at he
      cases he
      rfl

/-- The error of a text tells where the character begins that is not read. -/
theorem decodeFrom_of_error {b : UInt8} {e : Nat} (h : readChar (b :: bs) = .error e) :
    decodeFrom offset (b :: bs) = .error offset := by
  rw [decodeFrom]
  split
  · rfl
  · next he => rw [h] at he; cases he

end

/-- A text is read from its encoding, wherever the encoding stands. -/
theorem decodeFrom_encode (offset : Nat) (cs : List Char) :
    decodeFrom offset (encode cs) = .ok cs := by
  induction cs generalizing offset with
  | nil => rw [encode_nil, decodeFrom]
  | cons c cs ih => rw [encode_cons, decodeFrom_of_readChar (readChar_encode c _), ih]; rfl

/-- What a text is read from is its encoding. -/
theorem eq_encode_of_decodeFrom {offset : Nat} {bs : Bytes} {cs : List Char}
    (h : decodeFrom offset bs = .ok cs) : bs = encode cs := by
  induction cs generalizing offset bs with
  | nil =>
    cases bs with
    | nil => rfl
    | cons b bs =>
      cases hr : readChar (b :: bs) with
      | error e => rw [decodeFrom_of_error hr] at h; cases h
      | ok p =>
        rw [decodeFrom_of_readChar hr] at h
        cases hd : decodeFrom (offset + p.1.utf8Size) p.2 <;> rw [hd] at h <;> cases h
  | cons c cs ih =>
    cases bs with
    | nil => rw [decodeFrom] at h; cases h
    | cons b bs =>
      cases hr : readChar (b :: bs) with
      | error e => rw [decodeFrom_of_error hr] at h; cases h
      | ok p =>
        rw [decodeFrom_of_readChar hr] at h
        cases hd : decodeFrom (offset + p.1.utf8Size) p.2 with
        | error e => rw [hd] at h; cases h
        | ok ds =>
          rw [hd] at h
          cases h
          rw [eq_encode_of_readChar hr, encode_cons, ← ih hd]

/-- A text is read exactly from its encoding. -/
theorem decode?_eq_ok {bs : Bytes} {cs : List Char} : decode? bs = .ok cs ↔ bs = encode cs :=
  ⟨eq_encode_of_decodeFrom, fun h => h ▸ decodeFrom_encode 0 cs⟩

end Utf8
end Rehearsal.Text

import Rehearsal.Charset
import Rehearsal.Proofs.Charset.Utf8
import Rehearsal.Proofs.Check

/-!
# Reading UTF-16 back

A character below `0x10000` is one unit of 16 bits, which is no surrogate, and every other one is a
pair of surrogates. The two bytes of a unit come in either order. Main statement: a text is read
exactly from its encoding (`decode16_eq_ok`), so that an odd byte and a surrogate without the other
one are always refused.
-/

namespace Rehearsal.Charset

open Text (isValid_toNat toNat_ofNat)

/-! ## Units of characters -/

section
variable {offset u v : Nat} {us : List Nat}

/-- A unit that is no surrogate is a character. -/
theorem ofUnits_single (h : u < 0xD800 ∨ 0xE000 ≤ u) :
    ofUnits offset (u :: us) = (ofUnits (offset + 2) us).map (Char.ofNat u :: ·) := by
  rw [ofUnits.eq_def]
  dsimp only
  rw [if_neg (by omega), if_neg (by omega)]

/-- A high surrogate with a low one behind it is one character. -/
theorem ofUnits_pair (hu : 0xD800 ≤ u ∧ u < 0xDC00) (hv : 0xDC00 ≤ v ∧ v < 0xE000) :
    ofUnits offset (u :: v :: us) = (ofUnits (offset + 4) us).map
      (Char.ofNat (0x10000 + (u - 0xD800) * 0x400 + (v - 0xDC00)) :: ·) := by
  rw [ofUnits.eq_def]
  dsimp only
  rw [if_pos hu, if_pos hv]

end

theorem unitsOf_single {c : Char} (h : c.toNat < 0x10000) : unitsOf c = [c.toNat] := if_pos h

/-- The character that two surrogates are read as is written with these two. -/
theorem unitsOf_pair {c : Char} {u v : Nat} (hu : 0xD800 ≤ u ∧ u < 0xDC00)
    (hv : 0xDC00 ≤ v ∧ v < 0xE000)
    (hc : c.toNat = 0x10000 + (u - 0xD800) * 0x400 + (v - 0xDC00)) : unitsOf c = [u, v] := by
  have h₁ : 0xD800 + (c.toNat - 0x10000) / 0x400 = u := by omega
  have h₂ : 0xDC00 + (c.toNat - 0x10000) % 0x400 = v := by omega
  rw [unitsOf, if_neg (by omega), h₁, h₂]

/-- Units have 16 bits. -/
theorem unitsOf_lt (c : Char) : ∀ u ∈ unitsOf c, u < 0x10000 := by
  have hv := isValid_toNat c
  unfold unitsOf
  split
  · simpa
  · simp only [List.mem_cons, List.not_mem_nil, or_false, forall_eq_or_imp, forall_eq]
    omega

/-- A character is read from its units. -/
theorem ofUnits_unitsOf (offset : Nat) (c : Char) (us : List Nat) :
    ∃ offset', ofUnits offset (unitsOf c ++ us) = (ofUnits offset' us).map (c :: ·) := by
  have hv := isValid_toNat c
  have hc {n : Nat} (h : n = c.toNat) : Char.ofNat n = c := by rw [h, Char.ofNat_toNat]
  -- the offset counts bytes for the errors, and has no part in what is read
  unfold unitsOf
  split
  · exact ⟨offset + 2, by rw [List.singleton_append, ofUnits_single (by omega), hc rfl]⟩
  · refine ⟨offset + 4, ?_⟩
    rw [List.cons_append, List.singleton_append, ofUnits_pair (by omega) (by omega),
      hc (by omega)]

/-- The units of a text are read as this text, wherever they stand. -/
theorem ofUnits_flatMap_unitsOf (offset : Nat) (cs : List Char) :
    ofUnits offset (cs.flatMap unitsOf) = .ok cs := by
  induction cs generalizing offset with
  | nil => rfl
  | cons c cs ih =>
    obtain ⟨offset', h⟩ := ofUnits_unitsOf offset c (cs.flatMap unitsOf)
    rw [List.flatMap_cons, h, ih]
    rfl

/-- What a text is read from are its units. -/
theorem eq_unitsOf_of_ofUnits {offset : Nat} {us : List Nat} {cs : List Char}
    (hus : ∀ u ∈ us, u < 0x10000) (h : ofUnits offset us = .ok cs) : us = cs.flatMap unitsOf := by
  fun_induction ofUnits offset us generalizing cs with
  | case1 => cases h; rfl
  | case2 offset u hu v vs hv ih =>
    obtain ⟨ds, hds, rfl⟩ := check_map_eq_ok.1 h
    rw [List.flatMap_cons, unitsOf_pair hu hv (toNat_ofNat (by omega)),
      ← ih (fun w hw => hus w (by simp [hw])) hds]
    rfl
  -- a surrogate without the other one is an error, at the end as well as before something else
  | case3 | case4 | case5 => cases h
  | case6 offset u us hu hu' ih =>
    obtain ⟨ds, hds, rfl⟩ := check_map_eq_ok.1 h
    have hlt : u < 0x10000 := hus u (by simp)
    have hn := toNat_ofNat (n := u) (by omega)
    rw [List.flatMap_cons, unitsOf_single (by rwa [hn]), hn,
      ← ih (fun w hw => hus w (by simp [hw])) hds]
    rfl

/-! ## Bytes of units -/

section
variable {little : Bool}

/-- A unit is read from its two bytes, in either order. -/
theorem units_unitBytes_append {u : Nat} (h : u < 0x10000) (bs : Bytes) :
    units little (unitBytes little u ++ bs) = u :: units little bs := by
  have h₁ : (UInt8.ofNat u).toNat = u % 256 := UInt8.toNat_ofNat'
  have h₂ : (UInt8.ofNat (u / 256)).toNat = u / 256 :=
    UInt8.toNat_ofNat_of_lt' (by omega : u / 256 < 256)
  have h₃ : u % 256 + 256 * (u / 256) = u := Nat.mod_add_div u 256
  cases little
  · simp only [unitBytes, units, Bool.false_eq_true, if_false, List.cons_append, List.nil_append,
      h₁, h₂]
    rw [Nat.add_comm, h₃]
  · simp only [unitBytes, units, if_true, List.cons_append, List.nil_append, h₁, h₂, h₃]

theorem length_unitBytes (u : Nat) : (unitBytes little u).length = 2 := by
  cases little <;> rfl

/-- Units are read back from their bytes. -/
theorem units_flatMap_unitBytes {us : List Nat} (h : ∀ u ∈ us, u < 0x10000) :
    units little (us.flatMap (unitBytes little)) = us := by
  induction us with
  | nil => rfl
  | cons u us ih =>
    rw [List.flatMap_cons, units_unitBytes_append (h u (by simp)),
      ih fun v hv => h v (by simp [hv])]

theorem length_flatMap_unitBytes (us : List Nat) :
    (us.flatMap (unitBytes little)).length = 2 * us.length := by
  induction us with
  | nil => rfl
  | cons u us ih =>
    rw [List.flatMap_cons, List.length_append, length_unitBytes, ih, List.length_cons]
    omega

/-- Two bytes are the bytes of the unit that they are read as. -/
theorem unitBytes_of_bytes (a b : UInt8) :
    unitBytes little (if little then a.toNat + 256 * b.toNat else 256 * a.toNat + b.toNat)
      = [a, b] := by
  have ha := a.toNat_lt
  have hb := b.toNat_lt
  have hlow {n : Nat} {x : UInt8} (h : n % 256 = x.toNat) : UInt8.ofNat n = x := by
    apply UInt8.toNat_inj.1
    rw [UInt8.toNat_ofNat', h]
  cases little
  · rw [unitBytes, if_neg (by decide), if_neg (by decide), hlow (x := a) (by omega),
      hlow (x := b) (by omega)]
  · rw [unitBytes, if_pos rfl, if_pos rfl, hlow (x := a) (by omega), hlow (x := b) (by omega)]

/-- An even number of bytes are the bytes of their units. -/
theorem flatMap_unitBytes_units (little : Bool) {bs : Bytes} (h : bs.length % 2 = 0) :
    (units little bs).flatMap (unitBytes little) = bs
      ∧ ∀ u ∈ units little bs, u < 0x10000 := by
  fun_induction units little bs with
  | case1 a b r ih =>
    have ha := a.toNat_lt
    have hb := b.toNat_lt
    have hr : r.length % 2 = 0 := by
      simp only [List.length_cons] at h
      omega
    obtain ⟨ih₁, ih₂⟩ := ih hr
    refine ⟨?_, ?_⟩
    · rw [List.flatMap_cons, ih₁, unitBytes_of_bytes]
      rfl
    · rintro u (_ | ⟨_, hu⟩)
      · split <;> omega
      · exact ih₂ u hu
  | case2 bs hbs =>
    -- fewer than two bytes are left, and one alone would make their number odd
    cases bs with
    | nil => simp
    | cons a r =>
      cases r with
      | nil => simp at h
      | cons b r => exact absurd rfl (hbs a b r)

end

/-! ## Texts -/

theorem unitsOf_flatMap_lt (cs : List Char) : ∀ u ∈ cs.flatMap unitsOf, u < 0x10000 := by
  intro u hu
  obtain ⟨c, -, hc⟩ := List.mem_flatMap.1 hu
  exact unitsOf_lt c u hc

/-- A text is read from its own encoding. -/
theorem decode16_encode16 (little : Bool) (cs : List Char) :
    decode16 little (encode16 little cs) = .ok cs := by
  have hlen : (encode16 little cs).length % 2 = 0 := by
    rw [encode16, length_flatMap_unitBytes]
    exact Nat.mul_mod_right 2 _
  rw [decode16, if_pos hlen, encode16, units_flatMap_unitBytes (unitsOf_flatMap_lt cs),
    ofUnits_flatMap_unitsOf]

theorem length_unitsOf_pos (c : Char) : 0 < (unitsOf c).length := by
  unfold unitsOf
  split <;> simp

/-- Every character takes two bytes at least. -/
theorem two_mul_length_le_encode16 (little : Bool) (cs : List Char) :
    2 * cs.length ≤ (encode16 little cs).length := by
  rw [encode16, length_flatMap_unitBytes]
  induction cs with
  | nil => exact Nat.le_refl _
  | cons c cs ih =>
    have := length_unitsOf_pos c
    rw [List.flatMap_cons, List.length_append, List.length_cons]
    omega

/-- A text is read exactly from its encoding. -/
theorem decode16_eq_ok {little : Bool} {bs : Bytes} {cs : List Char} :
    decode16 little bs = .ok cs ↔ bs = encode16 little cs := by
  constructor
  · intro h
    unfold decode16 at h
    split at h
    · next hlen =>
      obtain ⟨hbs, hus⟩ := flatMap_unitBytes_units little hlen
      rw [encode16, ← eq_unitsOf_of_ofUnits hus h, hbs]
    · cases h
  · rintro rfl
    exact decode16_encode16 little cs

end Rehearsal.Charset

import Rehearsal.Json.Basic

/-!
# Equality of documents

`unsigned` takes the sign off every zero. Main statement: the test for equality of documents finds
equal what is the same but for the signs of zeros, and nothing else (`same_iff_unsigned_eq`). For
numbers this rests on the canonical form of a double, which its magnitude determines.
-/

namespace Rehearsal

/-! ## Doubles -/

namespace Double

/-- A canonical significand at the smaller of two exponents is not that of another exponent. -/
theorem shiftLeft_ne {m m' j : Nat} {q : Int} (hm : m < 1 <<< 53) (hj : 0 < j)
    (h : Canonical m' q) (hq : -1074 < q) : m ≠ m' <<< j := by
  obtain ⟨-, -, -, hlow | hlow⟩ := h
  · -- shifting a significand of 53 bits makes it too long
    obtain ⟨i, rfl⟩ : ∃ i, j = i + 1 := ⟨j - 1, by omega⟩
    have hshift : m' ≤ m' <<< i := Nat.le_shiftLeft
    rw [Nat.shiftLeft_succ]
    omega
  · omega

theorem canonical_eq_of_le {m m' : Nat} {q q' : Int} (hc : Canonical m q) (hc' : Canonical m' q')
    (hq : q ≤ q') (h : m <<< (q + 1074).toNat = m' <<< (q' + 1074).toNat) : m = m' ∧ q = q' := by
  have hlow : -1074 ≤ q := hc.2.1
  obtain ⟨j, hj⟩ : ∃ j : Nat, q' = q + j := ⟨(q' - q).toNat, by omega⟩
  have hexp : (q' + 1074).toNat = j + (q + 1074).toNat := by omega
  rw [hexp, Nat.shiftLeft_add] at h
  have hm : m = m' <<< j := by
    have hback := congrArg (· >>> (q + 1074).toNat) h
    simpa only [Nat.shiftLeft_shiftRight] using hback
  by_cases hzero : j = 0
  · subst hzero
    exact ⟨hm, by omega⟩
  · exact absurd hm (shiftLeft_ne hc.1 (by omega) hc' (by omega))

/-- A magnitude is written in one canonical way only. -/
theorem canonical_eq {m m' : Nat} {q q' : Int} (hc : Canonical m q) (hc' : Canonical m' q')
    (h : m <<< (q + 1074).toNat = m' <<< (q' + 1074).toNat) : m = m' ∧ q = q' := by
  rcases Int.le_total q q' with hq | hq
  · exact canonical_eq_of_le hc hc' hq h
  · obtain ⟨hm, hq⟩ := canonical_eq_of_le hc' hc hq h.symm
    exact ⟨hm.symm, hq.symm⟩

variable {a b d : Double}

/-- A finite double is determined by its sign and its magnitude. -/
theorem eq_of_magnitude_eq (ha : a.isFinite = true) (hb : b.isFinite = true)
    (hs : a.isNegative = b.isNegative) (hm : a.magnitude = b.magnitude) : a = b := by
  cases a <;> cases b <;> simp only [isFinite, Bool.false_eq_true] at ha hb
  next s m q hc s' m' q' hc' =>
    obtain rfl : s = s' := hs
    obtain ⟨rfl, rfl⟩ := canonical_eq hc hc' hm
    rfl

/-- There are no other doubles of magnitude zero than the two zeros. -/
theorem eq_zero_of_magnitude_eq_zero (hd : d.isFinite = true) (hm : d.magnitude = 0) :
    d = zero d.isNegative := by
  have hzero : (zero d.isNegative).isFinite = true := rfl
  apply eq_of_magnitude_eq hd hzero rfl
  rw [hm]
  simp [zero, magnitude]

/-- The value, where zero has lost its sign. -/
def unsigned (d : Double) : Double := if d = zero true then zero false else d

/-- The sign of a zero does not count in its units. -/
theorem units_unsigned (d : Double) : d.unsigned.units = d.units := by
  unfold unsigned
  split
  · next h => rw [h, units_zero, units_zero]
  · rfl

theorem unsigned_zero (s : Bool) : (zero s).unsigned = zero false := by
  cases s <;> simp [unsigned]

/-- Two finite doubles are equal if they are the same but for the sign of a zero, and only then. -/
theorem same_iff_unsigned_eq (ha : a.isFinite = true) (hb : b.isFinite = true) :
    a.same b = true ↔ a.unsigned = b.unsigned := by
  have hsame : a.same b = true ↔ a.units = b.units := by
    cases a <;> cases b <;> simp_all [isFinite, same, order]
  rw [hsame]
  constructor
  · intro h
    have hm : a.magnitude = b.magnitude := by
      unfold units at h
      split at h <;> split at h <;> omega
    by_cases hs : a.isNegative = b.isNegative
    · rw [eq_of_magnitude_eq ha hb hs hm]
    · -- the opposite signs leave room for zero only
      have hzero : a.magnitude = 0 := by
        unfold units at h
        split at h <;> split at h <;> first | omega | simp_all
      rw [eq_zero_of_magnitude_eq_zero ha hzero, eq_zero_of_magnitude_eq_zero hb (hm ▸ hzero),
        unsigned_zero, unsigned_zero]
  · intro h
    rw [← units_unsigned a, ← units_unsigned b, h]

theorem isFinite_unsigned (h : d.isFinite = true) : d.unsigned.isFinite = true := by
  unfold unsigned
  split
  · rfl
  · exact h

end Double

namespace Json

/-- The number, where zero has lost its sign. -/
def Number.unsigned : Number → Number
  | .double d h => .double d.unsigned (Double.isFinite_unsigned h)
  | n => n

/-- Numbers are equal if they are the same but for the sign of zero. -/
theorem Number.same_iff_unsigned_eq {m n : Number} :
    m.same n = true ↔ m.unsigned = n.unsigned := by
  cases m <;> cases n <;> simp [same, unsigned, Double.same_iff_unsigned_eq, *]

mutual
/-- The value, where every zero has lost its sign. -/
def unsigned : Json → Json
  | .number n => .number n.unsigned
  | .array items => .array (unsignedItems items)
  | .object fields => .object (unsignedFields fields)
  | v => v

/-- Items without the signs of their zeros. -/
def unsignedItems : List Json → List Json
  | [] => []
  | v :: vs => unsigned v :: unsignedItems vs

/-- Fields without the signs of their zeros. -/
def unsignedFields : List (String × Json) → List (String × Json)
  | [] => []
  | (k, v) :: fs => (k, unsigned v) :: unsignedFields fs
end

mutual
/-- Two values are equal if they are the same but for the signs of zeros, and only then. -/
theorem same_iff_unsigned_eq : ∀ (a b : Json), a.same b = true ↔ a.unsigned = b.unsigned
  | .number m, b => by
    cases b <;> simp [same, unsigned, Number.same_iff_unsigned_eq]
  | .array as, b => by
    cases b <;> simp [same, unsigned, sameItems_iff_unsigned_eq as]
  | .object as, b => by
    cases b <;> simp [same, unsigned, sameFields_iff_unsigned_eq as]
  | .null, b | .bool _, b | .text _, b => by
    cases b <;> simp [same, unsigned]

theorem sameItems_iff_unsigned_eq : ∀ (as bs : List Json),
    sameItems as bs = true ↔ unsignedItems as = unsignedItems bs
  | [], bs => by cases bs <;> simp [sameItems, unsignedItems]
  | a :: as, bs => by
    cases bs <;> simp [sameItems, unsignedItems, same_iff_unsigned_eq a,
      sameItems_iff_unsigned_eq as]

theorem sameFields_iff_unsigned_eq : ∀ (as bs : List (String × Json)),
    sameFields as bs = true ↔ unsignedFields as = unsignedFields bs
  | [], bs => by cases bs <;> simp [sameFields, unsignedFields]
  | (k, a) :: as, bs => by
    cases bs <;> simp [sameFields, unsignedFields, same_iff_unsigned_eq a,
      sameFields_iff_unsigned_eq as, and_assoc]
end

end Json
end Rehearsal

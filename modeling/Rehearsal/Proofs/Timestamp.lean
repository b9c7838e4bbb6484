import Rehearsal.Proofs.Date
import Rehearsal.Proofs.Double.Digits

/-!
# Reading timestamps back

A valid timestamp lies in a year that a timestamp may have, and has more than a second of
nanoseconds only in the last second of a minute. Main statements: a valid timestamp is read from its
written form as itself (`read?_render`), and every timestamp that is read is valid
(`isValid_of_read?`).
-/

namespace Rehearsal.Timestamp

open Double (NoDigitFirst)

/-- A timestamp that a clock can give. -/
structure IsValid (t : Timestamp) : Prop where
  inRange : isInRange t.seconds = true
  nanos : t.nanos < nanosPerSecond ∨ t.nanos < 2 * nanosPerSecond ∧ t.seconds % 60 = 59

/-! ## Numbers -/

section
variable {width n : Nat}

/-- A number with zeros in front is made of digits. -/
theorem isDigit_of_mem_padded : ∀ c ∈ padded '0' width n, c.isDigit = true := by
  intro c hc
  rcases List.mem_append.1 hc with hc | hc
  · exact (List.mem_replicate.1 hc).2 ▸ rfl
  · exact Decimal.isDigit_of_mem_digitsOf c hc

theorem padded_ne_nil : padded '0' width n ≠ [] := by
  simp [padded, Decimal.digitsOf]

/-- Zeros in front count nothing. -/
theorem valueOf_padded : Decimal.valueOf 0 (padded '0' width n) = n := by
  rw [Decimal.valueOf_eq_ofDigitChars, padded, Nat.ofDigitChars_append,
    Nat.ofDigitChars_replicate_zero, Nat.mul_zero, ← Decimal.valueOf_eq_ofDigitChars,
    Decimal.valueOf_digitsOf]

theorem length_padded (h : (Decimal.digitsOf n).length ≤ width) :
    (padded '0' width n).length = width := by
  rw [padded, List.length_append, List.length_replicate]
  omega

end

theorem isBlank_of_isDigit {c : Char} (h : c.isDigit = true) : Text.isBlank c = false := by
  obtain ⟨hlow, hhigh⟩ := Char.isDigit_iff_toNat.1 h
  have hzero : '0'.toNat = 48 := rfl
  have hnine : '9'.toNat = 57 := rfl
  simp [Text.isBlank]
  omega

theorem trimLeft_cons {c : Char} (h : Text.isBlank c = false) (r : List Char) :
    Text.trimLeft (c :: r) = c :: r := Text.trimLeft_eq_self fun _ hc => Option.some.inj hc ▸ h

section
variable {ds r : List Char} {most : Nat}

/-- No blank is in front of digits, so nothing is skipped there. -/
theorem trimLeft_digits (hd : ∀ c ∈ ds, c.isDigit = true) (hne : ds ≠ []) :
    Text.trimLeft (ds ++ r) = ds ++ r := by
  cases ds with
  | nil => exact absurd rfl hne
  | cons c ds => exact trimLeft_cons (isBlank_of_isDigit (hd c (by simp))) _

theorem takeWhile_digits (hd : ∀ c ∈ ds, c.isDigit = true) (hr : NoDigitFirst r) :
    (ds ++ r).takeWhile Char.isDigit = ds := by
  have h := Double.spanDigits_append hd hr
  rw [Double.spanDigits_eq] at h
  exact (Prod.mk.inj h).1

/-- Digits are read up to the last one that may count, or to what is none. -/
theorem readDigits?_append (hd : ∀ c ∈ ds, c.isDigit = true) (hne : ds ≠ [])
    (hlength : ds.length ≤ most) (hr : ds.length = most ∨ NoDigitFirst r) :
    readDigits? most (ds ++ r) = some (Decimal.valueOf 0 ds, r) := by
  have htake : ((ds ++ r).take most).takeWhile Char.isDigit = ds := by
    rw [List.take_append, List.take_of_length_le hlength]
    refine takeWhile_digits hd ?_
    rcases hr with hr | hr
    · rw [hr, Nat.sub_self, List.take_zero]
      exact fun _ h => nomatch h
    · intro c hc
      rw [List.head?_take] at hc
      split at hc
      · cases hc
      · exact hr c hc
  have hempty : ds.isEmpty = false := by simpa using hne
  rw [readDigits?, htake, hempty, List.drop_left]
  rfl

end

/-- A number with zeros in front is read up to the last digit that may count, or to what is none. -/
theorem readDigits?_padded {most width n : Nat} {r : List Char}
    (hlength : (padded '0' width n).length ≤ most)
    (hr : (padded '0' width n).length = most ∨ NoDigitFirst r) :
    readDigits? most (padded '0' width n ++ r) = some (n, r) := by
  rw [readDigits?_append isDigit_of_mem_padded padded_ne_nil hlength hr, valueOf_padded]

theorem trimLeft_padded (width n : Nat) (r : List Char) :
    Text.trimLeft (padded '0' width n ++ r) = padded '0' width n ++ r :=
  trimLeft_digits isDigit_of_mem_padded padded_ne_nil

/-- No text that is not begun by a digit begins with a number. -/
theorem padded_append_ne {c : Char} (hc : c.isDigit = false) (width n : Nat) (r t : List Char) :
    padded '0' width n ++ r ≠ c :: t := by
  intro h
  cases hds : padded '0' width n with
  | nil => exact padded_ne_nil hds
  | cons d ds =>
    have hmem : d ∈ padded '0' width n := by simp [hds]
    have hd := isDigit_of_mem_padded d hmem
    rw [hds] at h
    rw [(List.cons.inj h).1, hc] at hd
    cases hd

theorem length_twoDigits {n : Nat} (h : n < 100) : (twoDigits n).length = 2 :=
  length_padded ((Nat.length_toDigits_le_iff (by omega) (by omega)).2 h)

/-- Month, day, hour, minute and second are read from their two digits, whatever follows. -/
theorem readNumber?_twoDigits {n : Nat} (h : n < 100) (r : List Char) :
    readNumber? 2 (twoDigits n ++ r) = some (n, r) := by
  have hlength := length_twoDigits h
  rw [twoDigits] at hlength ⊢
  rw [readNumber?, trimLeft_padded]
  exact readDigits?_padded (Nat.le_of_eq hlength) (.inl hlength)

/-- A mark that is no blank is read where it stands. -/
theorem expect?_cons {c : Char} (h : Text.isBlank c = false) (r : List Char) :
    expect? c (c :: r) = some r := by
  rw [expect?, trimLeft_cons h]
  exact if_pos rfl

/-! ## Years -/

/-- A year of four digits is read without a sign, every other one with its sign and all its digits.
-/
theorem readYear?_yearText (y : Int) {r : List Char} (hr : NoDigitFirst r) :
    readYear? (yearText y ++ r) = some (y, r) := by
  unfold yearText
  -- four digits or fewer have no sign, so the reader must not take the first digit for one
  split
  · next hy =>
    have hlength : (padded '0' 4 y.toNat).length = 4 :=
      length_padded ((Nat.length_toDigits_le_iff (by omega) (by omega)).2 (by omega))
    unfold readYear?
    rw [trimLeft_padded]
    split
    · next heq => exact absurd heq (padded_append_ne rfl _ _ _ _)
    · next heq => exact absurd heq (padded_append_ne rfl _ _ _ _)
    · rw [readDigits?_padded (Nat.le_of_eq hlength) (.inl hlength)]
      exact congrArg (fun n : Int => some (n, r)) (Int.toNat_of_nonneg hy.1)
  · next hy =>
    have hread : readDigits? (padded '0' 4 y.natAbs ++ r).length (padded '0' 4 y.natAbs ++ r)
        = some (y.natAbs, r) :=
      readDigits?_padded (by rw [List.length_append]; omega) (.inr hr)
    -- with a sign all digits count, so they end at what is none
    rcases Int.lt_or_le y 0 with hneg | hpos
    · rw [if_pos hneg, List.cons_append, readYear?, trimLeft_cons (by decide)]
      show (readDigits? _ _).map _ = _
      rw [hread]
      exact congrArg (fun n : Int => some (n, r)) (by omega)
    · rw [if_neg (by omega), List.cons_append, readYear?, trimLeft_cons (by decide)]
      show (readDigits? _ _).map _ = _
      rw [hread]
      exact congrArg (fun n : Int => some (n, r)) (by omega)

/-! ## Fractions -/

/-- Zeros at the end multiply a number by powers of ten. -/
theorem valueOf_append_zeros (ds : List Char) (count : Nat) :
    Decimal.valueOf 0 (ds ++ List.replicate count '0')
      = Nat.pow 10 count * Decimal.valueOf 0 ds := by
  rw [Decimal.valueOf_eq_ofDigitChars, Decimal.valueOf_eq_ofDigitChars, Nat.ofDigitChars_append,
    Nat.ofDigitChars_replicate_zero]
  rfl

/-- Digits behind a point are nanoseconds once there are nine of them. -/
theorem readFraction?_padded {width n : Nat} {r : List Char}
    (hlength : (padded '0' width n).length = width) (hle : width ≤ 9) (hr : NoDigitFirst r) :
    readFraction? ('.' :: padded '0' width n ++ r) = some (Nat.pow 10 (9 - width) * n, r) := by
  have hempty : (padded '0' width n).isEmpty = false := by simpa using padded_ne_nil
  rw [List.cons_append, readFraction?, takeWhile_digits isDigit_of_mem_padded hr, hempty,
    List.drop_left, hlength, List.take_of_length_le (by omega), if_neg Bool.false_ne_true]
  dsimp only
  rw [valueOf_append_zeros, valueOf_padded]

/-- Nanoseconds are read from the three, six or nine digits that they are written with, and from
none if there are none. -/
theorem readFraction?_fractionText {nanos : Nat} (h : nanos < nanosPerSecond) {r : List Char}
    (hr : NoDigitFirst r) (hpoint : r.head? ≠ some '.') :
    readFraction? (fractionText nanos ++ r) = some (nanos, r) := by
  have hpadded (width n : Nat) (hn : (Decimal.digitsOf n).length ≤ width) (hle : width ≤ 9)
      (hnanos : Nat.pow 10 (9 - width) * n = nanos) :
      readFraction? ('.' :: padded '0' width n ++ r) = some (nanos, r) := by
    rw [readFraction?_padded (length_padded hn) hle hr, hnanos]
  have hlength {n k : Nat} (hk : 0 < k) (hn : n < 10 ^ k) : (Decimal.digitsOf n).length ≤ k :=
    (Nat.length_toDigits_le_iff (by omega) hk).2 hn
  rw [nanosPerSecond] at h
  unfold fractionText
  -- without nanoseconds no point is written
  split
  · next h0 =>
    subst h0
    unfold readFraction?
    split
    · next heq =>
      rw [List.nil_append] at heq
      exact absurd (congrArg List.head? heq) hpoint
    · rfl
  split
  · exact hpadded 3 _ (hlength (by omega) (by omega)) (by omega) (by show 1000000 * _ = _; omega)
  split
  · exact hpadded 6 _ (hlength (by omega) (by omega)) (by omega) (by show 1000 * _ = _; omega)
  · exact hpadded 9 _ (hlength (by omega) (by omega)) (by omega) (by show 1 * _ = _; omega)

/-- Digits behind the ninth do not count, so a fraction is less than a second. -/
theorem readFraction?_lt {cs r : List Char} {nanos : Nat}
    (h : readFraction? cs = some (nanos, r)) : nanos < nanosPerSecond := by
  unfold readFraction? at h
  split at h
  · next t =>
    dsimp only at h
    split at h
    · cases h
    · cases h
      have hdigits : ∀ c ∈ (t.takeWhile Char.isDigit).take 9
          ++ List.replicate (9 - (t.takeWhile Char.isDigit).length) '0', c.isDigit = true := by
        intro c hc
        rcases List.mem_append.1 hc with hc | hc
        · exact List.all_eq_true.1 List.all_takeWhile c (List.mem_of_mem_take hc)
        · exact (List.mem_replicate.1 hc).2 ▸ rfl
      have hlt := Decimal.valueOf_lt 0 hdigits
      have hlength : ((t.takeWhile Char.isDigit).take 9
          ++ List.replicate (9 - (t.takeWhile Char.isDigit).length) '0').length = 9 := by
        rw [List.length_append, List.length_take, List.length_replicate]
        omega
      rw [hlength] at hlt
      exact hlt
  · cases h
    decide

/-! ## Offsets -/

/-- An offset is a number of minutes. -/
theorem readOffset?_mod {cs r : List Char} {offset : Int}
    (h : readOffset? cs = some (offset, r)) : offset % 60 = 0 := by
  unfold readOffset? at h
  extract_lets signed at h
  -- hours and minutes make a number of minutes, whatever the sign is
  have hsigned {negative : Bool} {cs : List Char} (h : signed negative cs = some (offset, r)) :
      offset % 60 = 0 := by
    simp only [signed, Option.bind_eq_bind, Option.bind_eq_some_iff] at h
    obtain ⟨⟨hours, t⟩, -, ⟨minutes, t'⟩, -, h⟩ := h
    split at h
    · cases h
    · cases h
      split <;> omega
  split at h
  · cases h
  · cases h; rfl
  · cases h; rfl
  · exact hsigned h
  · exact hsigned h
  · split at h
    · exact hsigned h
    · split at h <;> cases h
      rfl

/-! ## Timestamps -/

/-- The month of a date has two digits. -/
theorem month_date_lt (t : Timestamp) : t.date.month < 100 := by
  have h := Date.isValid_ofDays (t.seconds / 86400)
  simp only [Date.isValid, Bool.and_eq_true, decide_eq_true_eq] at h
  have hmonth : t.date.month ≤ 12 := h.1.1.2
  omega

/-- The day of a date has two digits. -/
theorem day_date_lt (t : Timestamp) : t.date.day < 100 := by
  have h := Date.isValid_ofDays (t.seconds / 86400)
  simp only [Date.isValid, Bool.and_eq_true, decide_eq_true_eq] at h
  have hday : t.date.day ≤ Date.daysInMonth t.date.year t.date.month := h.2
  have hlong : Date.daysInMonth t.date.year t.date.month ≤ 31 := by
    unfold Date.daysInMonth
    split
    · split <;> omega
    · split <;> omega
  omega

theorem secondOfDay_eq (t : Timestamp) : (t.secondOfDay : Int) = t.seconds % 86400 := by
  rw [secondOfDay]
  omega

/-- Only a leap second is written as the second 60. -/
theorem second_eq_sixty_iff {t : Timestamp} (h : t.IsValid) :
    t.second = 60 ↔ nanosPerSecond ≤ t.nanos := by
  have hday := t.secondOfDay_eq
  have hnanos := h.nanos
  rw [second]
  split <;> omega

/-- Hour, minute and second give the second of the day; a leap second counts as the one before. -/
theorem clock_eq {t : Timestamp} (h : t.IsValid) :
    (t.hour * 3600 + t.minute * 60 + (if t.second = 60 then 59 else t.second : Nat) : Int)
      = t.seconds % 86400 := by
  have hday := t.secondOfDay_eq
  have hnanos := h.nanos
  have hleap := second_eq_sixty_iff h
  have hsecond : t.second = t.secondOfDay % 60 + (if nanosPerSecond ≤ t.nanos then 1 else 0) := rfl
  rw [hour, minute]
  split at hsecond <;> split <;> omega

/-- The nanoseconds of a leap second are those on top of the second 59. -/
theorem nanos_eq {t : Timestamp} (h : t.IsValid) :
    t.subsecond + (if t.second = 60 then nanosPerSecond else 0) = t.nanos := by
  have hnanos := h.nanos
  simp only [second_eq_sixty_iff h, subsecond, nanosPerSecond] at hnanos ⊢
  split <;> omega

/-- Date and clock give the second. -/
theorem seconds_eq {t : Timestamp} (h : t.IsValid) :
    Date.daysOf ⟨t.date.year, t.date.month, t.date.day⟩ * 86400
      + (t.hour * 3600 + t.minute * 60 + (if t.second = 60 then 59 else t.second : Nat) : Int)
    = t.seconds := by
  have hdays : Date.daysOf t.date = t.seconds / 86400 := Date.daysOf_ofDays _
  rw [clock_eq h]
  show Date.daysOf t.date * 86400 + _ = _
  omega

/-- The parts of a written timestamp, in order. -/
theorem toList_render (t : Timestamp) : t.render.toList
    = yearText t.date.year ++ '-' :: (twoDigits t.date.month ++ '-' :: (twoDigits t.date.day
      ++ 'T' :: (twoDigits t.hour ++ ':' :: (twoDigits t.minute ++ ':' :: (twoDigits t.second
      ++ (fractionText t.subsecond ++ ['Z'])))))) := by
  simp only [render, String.toList_ofList, dateTimeText, List.append_assoc, List.cons_append]

/-- A valid timestamp is read from its written form. -/
theorem read?_render {t : Timestamp} (h : t.IsValid) : read? t.render = some t := by
  have hclock : t.secondOfDay < 86400 := by
    rw [secondOfDay]
    omega
  have hhour : t.hour ≤ 23 := by rw [hour]; omega
  have hminute : t.minute ≤ 59 := by rw [minute]; omega
  have hsecond : t.second ≤ 60 := by
    rw [second]
    split <;> omega
  have hsubsecond : t.subsecond < nanosPerSecond := Nat.mod_lt _ (by decide)
  have hfirst {c : Char} (hc : c.isDigit = false) (r : List Char) : NoDigitFirst (c :: r) :=
    fun _ hd => Option.some.inj hd ▸ hc
  have hdate : Date.isValid ⟨t.date.year, t.date.month, t.date.day⟩ = true :=
    Date.isValid_ofDays _
  -- part by part, each read up to where the next one begins
  rw [read?, toList_render]
  refine Option.bind_eq_some_iff.2 ⟨_, readYear?_yearText _ (hfirst rfl _), ?_⟩
  refine Option.bind_eq_some_iff.2 ⟨_, expect?_cons rfl _, ?_⟩
  refine Option.bind_eq_some_iff.2 ⟨_, readNumber?_twoDigits (month_date_lt t) _, ?_⟩
  refine Option.bind_eq_some_iff.2 ⟨_, expect?_cons rfl _, ?_⟩
  refine Option.bind_eq_some_iff.2 ⟨_, readNumber?_twoDigits (day_date_lt t) _, ?_⟩
  dsimp only
  rw [if_pos (.inl rfl), Option.bind_eq_bind, Option.bind_some]
  refine Option.bind_eq_some_iff.2
    ⟨_, readNumber?_twoDigits (Nat.lt_of_le_of_lt hhour (by decide)) _, ?_⟩
  refine Option.bind_eq_some_iff.2 ⟨_, expect?_cons rfl _, ?_⟩
  refine Option.bind_eq_some_iff.2
    ⟨_, readNumber?_twoDigits (Nat.lt_of_le_of_lt hminute (by decide)) _, ?_⟩
  refine Option.bind_eq_some_iff.2 ⟨_, expect?_cons rfl _, ?_⟩
  refine Option.bind_eq_some_iff.2
    ⟨_, readNumber?_twoDigits (Nat.lt_of_le_of_lt hsecond (by decide)) _, ?_⟩
  refine Option.bind_eq_some_iff.2
    ⟨_, readFraction?_fractionText hsubsecond (hfirst rfl _) (by simp), ?_⟩
  refine Option.bind_eq_some_iff.2 ⟨(0, []), rfl, ?_⟩
  dsimp only
  -- the date is valid and nothing is left behind the offset
  rw [if_neg]
  · rw [seconds_eq h, Int.sub_zero, h.inRange, nanos_eq h]
    rfl
  · simp [hdate, Text.trimLeft]
    omega

/-- Every timestamp that is read is valid. -/
theorem isValid_of_read? {s : String} {t : Timestamp} (h : read? s = some t) : t.IsValid := by
  obtain ⟨⟨year, r⟩, -, h⟩ := Option.bind_eq_some_iff.1 h
  obtain ⟨r, -, h⟩ := Option.bind_eq_some_iff.1 h
  obtain ⟨⟨month, r⟩, -, h⟩ := Option.bind_eq_some_iff.1 h
  obtain ⟨r, -, h⟩ := Option.bind_eq_some_iff.1 h
  obtain ⟨⟨day, r⟩, -, h⟩ := Option.bind_eq_some_iff.1 h
  -- behind a date stands the mark of a time, another character or none
  dsimp only at h
  split at h
  · split at h
    · rw [Option.bind_eq_bind, Option.bind_some] at h
      obtain ⟨⟨hour, r⟩, -, h⟩ := Option.bind_eq_some_iff.1 h
      obtain ⟨r, -, h⟩ := Option.bind_eq_some_iff.1 h
      obtain ⟨⟨minute, r⟩, -, h⟩ := Option.bind_eq_some_iff.1 h
      obtain ⟨r, -, h⟩ := Option.bind_eq_some_iff.1 h
      obtain ⟨⟨second, r⟩, -, h⟩ := Option.bind_eq_some_iff.1 h
      obtain ⟨⟨nanos, r⟩, hnanos, h⟩ := Option.bind_eq_some_iff.1 h
      obtain ⟨⟨offset, r⟩, hoffset, h⟩ := Option.bind_eq_some_iff.1 h
      rw [Option.ite_none_left_eq_some, Option.ite_none_right_eq_some, Option.some.injEq] at h
      obtain ⟨-, hrange, rfl⟩ := h
      have hlt := readFraction?_lt hnanos
      have hmod := readOffset?_mod hoffset
      refine ⟨(Bool.and_eq_true_iff.1 hrange).2, ?_⟩
      dsimp only at hlt hmod ⊢
      split <;> omega
    · cases h
  · cases h

end Rehearsal.Timestamp

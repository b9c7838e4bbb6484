import Rehearsal.Json.Parser
import Rehearsal.Proofs.Check
import Rehearsal.Proofs.Double.Digits

/-!
# Reading written numbers

A number that is read up to the end of a text is read in the same way in front of a comma, a bracket
or a brace (`Source.read_number_append`). Whole numbers and negative ones are always read back from
their written form (`isReadBack_whole`, `isReadBack_negative`).
-/

namespace Rehearsal.Json

open Double (NoDigitFirst spanDigits_append_right spanDigits_suffix)

/-- What may stand behind a value in a compact text: nothing, or a comma, bracket or brace. -/
def Closes (r : List Char) : Prop := ∀ c ∈ r.head?, c = ',' ∨ c = ']' ∨ c = '}'

theorem closes_nil : Closes [] := fun _ h => nomatch h

/-- What closes a value does not go on with a digit. -/
theorem Closes.noDigitFirst {r : List Char} (h : Closes r) : NoDigitFirst r := by
  intro c hc
  rcases h c hc with rfl | rfl | rfl <;> rfl

/-! ## Parts of a number -/

section
variable {cs r r' : List Char}

/-- The whole part is all digits that come first. There is at least one, and a leading zero stands
alone. -/
theorem readWhole_eq_ok {ds : List Char} : readWhole cs = .ok (ds, r)
    ↔ Double.spanDigits cs = (ds, r) ∧ ds ≠ [] ∧ (ds = ['0'] ∨ ∀ c ∈ ds.head?, c ≠ '0') := by
  unfold readWhole
  generalize Double.spanDigits cs = p
  obtain ⟨es, t⟩ := p
  -- the four cases of the reader: no digit, a zero alone, a zero with digits behind it, and any
  -- other digits
  split
  · next heq =>
    cases heq
    refine ⟨fun h => ?_, fun ⟨h, hne, _⟩ => ?_⟩
    · cases t <;> cases h
    · cases h
      exact absurd rfl hne
  · next heq =>
    cases heq
    refine ⟨fun h => ?_, fun ⟨h, _⟩ => ?_⟩
    · cases h
      exact ⟨rfl, by simp, .inl rfl⟩
    · cases h
      rfl
  · next hlead heq =>
    cases heq
    refine ⟨fun h => (nomatch h), fun ⟨h, _, hz⟩ => ?_⟩
    cases h
    rcases hz with hz | hz
    · cases hz
      exact absurd rfl hlead
    · exact absurd rfl (hz '0' rfl)
  · next hnil hzero hlead heq =>
    cases heq
    refine ⟨fun h => ?_, fun ⟨h, _⟩ => ?_⟩
    · cases h
      refine ⟨rfl, hnil, .inr fun c hc h0 => ?_⟩
      subst h0
      obtain ⟨tail, rfl⟩ := List.head?_eq_some_iff.1 hc
      exact hlead _ rfl
    · cases h
      rfl

/-- What closes a number is no digit, so the whole part ends where it ended. -/
theorem readWhole_append {ds : List Char} (h : readWhole cs = .ok (ds, r')) (hr : Closes r) :
    readWhole (cs ++ r) = .ok (ds, r' ++ r) := by
  obtain ⟨hs, hds⟩ := readWhole_eq_ok.1 h
  exact readWhole_eq_ok.2 ⟨spanDigits_append_right hs hr.noDigitFirst, hds⟩

/-- What is left behind the whole part is an end of the text. -/
theorem readWhole_suffix {ds : List Char} (h : readWhole cs = .ok (ds, r)) : r <:+ cs := by
  have hs := spanDigits_suffix cs
  rwa [(readWhole_eq_ok.1 h).1] at hs

/-- A fraction is a point with at least one digit behind it; without a point there is none. -/
theorem readFraction_eq_ok {f : Option (List Char)} : readFraction cs = .ok (f, r)
    ↔ (f = none ∧ r = cs ∧ cs.head? ≠ some '.')
      ∨ ∃ t ds, cs = '.' :: t ∧ Double.spanDigits t = (ds, r) ∧ ds ≠ [] ∧ f = some ds := by
  unfold readFraction
  split
  · next t =>
    generalize hp : Double.spanDigits t = p
    obtain ⟨es, t'⟩ := p
    split
    · next heq => cases heq; simp [hp]
    · next heq => cases heq; simp [hp]
    · next hnil hne heq => cases heq; simp [hp]; grind
  · next hdot =>
    have hhead : cs.head? ≠ some '.' := fun h =>
      have ⟨t, ht⟩ := List.head?_eq_some_iff.1 h
      hdot t ht
    constructor
    · intro h
      cases h
      exact .inl ⟨rfl, rfl, hhead⟩
    · rintro (⟨rfl, rfl, -⟩ | ⟨t, ds, rfl, -⟩)
      · rfl
      · exact absurd rfl hhead

/-- What closes a number is no point either, so no fraction comes in. -/
theorem readFraction_append {f : Option (List Char)} (h : readFraction cs = .ok (f, r'))
    (hr : Closes r) : readFraction (cs ++ r) = .ok (f, r' ++ r) := by
  rcases readFraction_eq_ok.1 h with ⟨rfl, rfl, hhead⟩ | ⟨t, ds, rfl, hs, hds, rfl⟩
  · refine readFraction_eq_ok.2 (.inl ⟨rfl, rfl, fun h => ?_⟩)
    rw [List.head?_append] at h
    -- if nothing is left the next character is the closing one, which is no point
    cases hc : r'.head? with
    | some c =>
      rw [hc] at h hhead
      exact hhead h
    | none =>
      rw [hc] at h
      rcases hr '.' h with h | h | h <;> cases h
  · exact readFraction_eq_ok.2
      (.inr ⟨t ++ r, ds, rfl, spanDigits_append_right hs hr.noDigitFirst, hds, rfl⟩)

/-- So it is behind a fraction, also where there is none. -/
theorem readFraction_suffix {f : Option (List Char)} (h : readFraction cs = .ok (f, r)) :
    r <:+ cs := by
  rcases readFraction_eq_ok.1 h with ⟨-, rfl, -⟩ | ⟨t, ds, rfl, hs, -⟩
  · exact List.suffix_rfl
  · have ht := spanDigits_suffix t
    rw [hs] at ht
    exact ht.trans (List.suffix_cons _ _)

end

/-! ### Powers -/

/-- The sign in front of the digits of a power: is it a minus? -/
def splitSign : List Char → Bool × List Char
  | '-' :: r => (true, r)
  | '+' :: r => (false, r)
  | r => (false, r)

/-- The digits of a power, of which there is at least one. -/
def readPowerDigits (negative : Bool) (cs : List Char) : Read (Option Int) :=
  match Double.spanDigits cs with
  | ([], []) => .error .endOfText
  | ([], _) => .error .number
  | (ds, r) =>
    let n : Int := Decimal.valueOf 0 ds
    .ok (some (if negative then -n else n), r)

/-- A power begins with an `e` of either case; its sign and digits are read after it. -/
theorem readPower_cons (c : Char) (cs : List Char) : readPower (c :: cs)
    = if c = 'e' ∨ c = 'E' then readPowerDigits (splitSign cs).1 (splitSign cs).2
      else .ok (none, c :: cs) := rfl

section
variable {cs r r' : List Char} {e : Option Int}

/-- Behind a text that is not over, nothing comes into the sign. -/
theorem splitSign_append (h : cs ≠ []) (r : List Char) :
    splitSign (cs ++ r) = ((splitSign cs).1, (splitSign cs).2 ++ r) := by
  unfold splitSign
  split
  · next heq => cases cs <;> simp_all
  · next heq => cases cs <;> simp_all
  · next hminus hplus =>
    cases cs with
    | nil => exact absurd rfl h
    | cons c cs => split <;> simp_all

/-- At most the sign is taken away. -/
theorem splitSign_suffix (cs : List Char) : (splitSign cs).2 <:+ cs := by
  unfold splitSign
  split
  · exact List.suffix_cons _ _
  · exact List.suffix_cons _ _
  · exact List.suffix_rfl

/-- A power has at least one digit. -/
theorem readPowerDigits_eq_ok {negative : Bool} : readPowerDigits negative cs = .ok (e, r)
    ↔ ∃ ds, Double.spanDigits cs = (ds, r) ∧ ds ≠ []
      ∧ e = some (if negative then -(Decimal.valueOf 0 ds : Int) else Decimal.valueOf 0 ds) := by
  unfold readPowerDigits
  generalize Double.spanDigits cs = p
  obtain ⟨es, t⟩ := p
  split
  · next heq => cases heq; simp
  · next heq => cases heq; simp
  · next hnil hne heq => cases heq; simp; grind

/-- What closes a number is no `e`, and none of the signs and digits behind one. -/
theorem readPower_append (h : readPower cs = .ok (e, r')) (hr : Closes r) :
    readPower (cs ++ r) = .ok (e, r' ++ r) := by
  cases cs with
  -- without a power the text could only get one from what closes it
  | nil =>
    cases h
    cases r with
    | nil => rfl
    | cons c r =>
      rw [List.nil_append, readPower_cons, if_neg]
      rcases hr c rfl with rfl | rfl | rfl <;> decide
  | cons c cs =>
    rw [List.cons_append]
    rw [readPower_cons] at h ⊢
    split at h
    · next hc =>
      -- a sign may follow the mark, but not as the last character
      have hne : cs ≠ [] := by rintro rfl; cases h
      obtain ⟨ds, hs, hds⟩ := readPowerDigits_eq_ok.1 h
      rw [if_pos hc, splitSign_append hne]
      exact readPowerDigits_eq_ok.2 ⟨ds, spanDigits_append_right hs hr.noDigitFirst, hds⟩
    · next hc =>
      cases h
      exact if_neg hc

/-- What is left behind a power is an end of the text as well. -/
theorem readPower_suffix (h : readPower cs = .ok (e, r)) : r <:+ cs := by
  cases cs with
  | nil => cases h; exact List.suffix_rfl
  | cons c cs =>
    rw [readPower_cons] at h
    split at h
    · obtain ⟨ds, hs, -⟩ := readPowerDigits_eq_ok.1 h
      have ht := spanDigits_suffix (splitSign cs).2
      rw [hs] at ht
      exact (ht.trans (splitSign_suffix cs)).trans (List.suffix_cons _ _)
    · cases h
      exact List.suffix_rfl

end

/-! ## Numbers -/

section
variable {cs r r' : List Char} {negative : Bool} {s : Source}

/-- A number without its sign has three parts, each read where the one before ends. -/
theorem readMagnitude_eq_ok : readMagnitude negative cs = .ok (s, r)
    ↔ ∃ whole r₁ fraction r₂ exponent, readWhole cs = .ok (whole, r₁)
      ∧ readFraction r₁ = .ok (fraction, r₂) ∧ readPower r₂ = .ok (exponent, r)
      ∧ s = .number { negative, whole, fraction, exponent } := by
  simp only [readMagnitude, check_bind_eq_ok]
  constructor
  · rintro ⟨⟨whole, r₁⟩, hw, ⟨fraction, r₂⟩, hf, ⟨exponent, r₃⟩, hp, h⟩
    cases h
    exact ⟨whole, r₁, fraction, r₂, exponent, hw, hf, hp, rfl⟩
  · rintro ⟨whole, r₁, fraction, r₂, exponent, hw, hf, hp, rfl⟩
    exact ⟨(whole, r₁), hw, (fraction, r₂), hf, (exponent, r), hp, rfl⟩

/-- A number that is read is read in the same way in front of what closes it. -/
theorem readMagnitude_append (h : readMagnitude negative cs = .ok (s, r')) (hr : Closes r) :
    readMagnitude negative (cs ++ r) = .ok (s, r' ++ r) := by
  obtain ⟨whole, r₁, fraction, r₂, exponent, hw, hf, hp, hs⟩ := readMagnitude_eq_ok.1 h
  exact readMagnitude_eq_ok.2 ⟨whole, r₁ ++ r, fraction, r₂ ++ r, exponent,
    readWhole_append hw hr, readFraction_append hf hr, readPower_append hp hr, hs⟩

/-- What is left behind a number is an end of the text. -/
theorem readMagnitude_suffix (h : readMagnitude negative cs = .ok (s, r)) : r <:+ cs := by
  obtain ⟨whole, r₁, fraction, r₂, exponent, hw, hf, hp, -⟩ := readMagnitude_eq_ok.1 h
  exact (readPower_suffix hp).trans ((readFraction_suffix hf).trans (readWhole_suffix hw))

/-- A number without its sign begins with a digit. -/
theorem isDigit_of_readMagnitude {c : Char} (h : readMagnitude negative (c :: cs) = .ok (s, r)) :
    c.isDigit = true := by
  obtain ⟨whole, r₁, fraction, r₂, exponent, hw, -⟩ := readMagnitude_eq_ok.1 h
  obtain ⟨hs, hne, -⟩ := readWhole_eq_ok.1 hw
  rw [Double.spanDigits_eq, Prod.mk.injEq, List.takeWhile_cons] at hs
  cases hc : c.isDigit with
  | true => rfl
  | false =>
    rw [hc] at hs
    exact absurd hs.1.symm hne

end

namespace Source

variable {cs r : List Char} {fuel : Nat} {c : Char} {parts : NumberParts}

/-- A minus begins a number with a sign. -/
theorem read_minus (fuel : Nat) (cs : List Char) :
    read (fuel + 1) ('-' :: cs) = readMagnitude true cs := rfl

theorem skipBlanks_cons (h : isBlank c = false) (cs : List Char) : skipBlanks (c :: cs) = c :: cs :=
  List.dropWhile_cons_of_neg (by simp [h])

/-- A digit is not skipped in front of a value. -/
theorem isBlank_of_isDigit (h : c.isDigit = true) : isBlank c = false := by
  unfold isBlank
  simp
  refine ⟨⟨⟨?_, ?_⟩, ?_⟩, ?_⟩ <;> (rintro rfl; cases h)

/-- A digit begins a number without a sign. -/
theorem read_digit (h : c.isDigit = true) (fuel : Nat) (cs : List Char) :
    read (fuel + 1) (c :: cs) = readMagnitude false (c :: cs) := by
  rw [read.eq_def]
  dsimp only
  rw [skipBlanks_cons (isBlank_of_isDigit h)]
  split <;> first
    | rfl
    | next heq => cases heq; cases h

/-- A word stands for one value only. -/
theorem eq_of_readWord {word : List Char} {v s : Source} (h : readWord word v cs = .ok (s, r)) :
    s = v := by
  unfold readWord at h
  split at h
  · cases h
    rfl
  · cases cs <;> cases h

/-- What is read as a number begins with a minus or a digit. -/
theorem read_eq_number (hc : isBlank c = false)
    (h : read fuel (c :: cs) = .ok (.number parts, r)) :
    c = '-' ∧ readMagnitude true cs = .ok (.number parts, r)
      ∨ c.isDigit = true ∧ readMagnitude false (c :: cs) = .ok (.number parts, r) := by
  cases fuel with
  | zero => cases h
  | succ fuel =>
    rw [read.eq_def] at h
    dsimp only at h
    rw [skipBlanks_cons hc] at h
    -- the other beginnings are those of quotes, brackets, braces and words
    split at h
    · obtain ⟨a, -, ha⟩ := check_map_eq_ok.1 h
      cases ha
    · split at h
      · cases h
      · obtain ⟨a, -, ha⟩ := check_map_eq_ok.1 h
        cases ha
    · split at h
      · cases h
      · obtain ⟨a, -, ha⟩ := check_map_eq_ok.1 h
        cases ha
    · next hs =>
      cases hs
      exact .inl ⟨rfl, h⟩
    · cases eq_of_readWord h
    · cases eq_of_readWord h
    · cases eq_of_readWord h
    · exact .inr ⟨isDigit_of_readMagnitude h, h⟩

/-! ### Whole texts -/

/-- A text is read as a whole if nothing but blanks is left behind the value. -/
theorem ofChars_eq_ok {cs : List Char} {s : Source} : ofChars cs = .ok s
    ↔ ∃ r, read (2 * cs.length + 2) cs = .ok (s, r) ∧ skipBlanks r = [] := by
  simp only [ofChars, check_bind_eq_ok]
  constructor
  · rintro ⟨⟨t, r⟩, hread, h⟩
    dsimp only at h
    split at h
    · next hr =>
      cases h
      exact ⟨r, hread, hr⟩
    · next hr =>
      cases hs : skipBlanks r <;> rw [hs] at h <;> cases h
  · rintro ⟨r, hread, hr⟩
    exact ⟨(s, r), hread, by dsimp only; rw [hr]; rfl⟩

/-- Of all sources only that of a number has a number for its value. -/
theorem exists_parts_of_value {s : Source} {n : Number} {depth : Nat}
    (h : value depth s = .ok (.number n)) : ∃ parts, s = .number parts
      ∧ parts.value = .ok (.number n) := by
  cases s with
  | number parts => exact ⟨parts, rfl, by rwa [value.eq_def] at h⟩
  | null => cases depth <;> cases h
  | bool b => cases depth <;> cases h
  | text ps =>
    rw [value.eq_def] at h
    obtain ⟨a, -, ha⟩ := check_map_eq_ok.1 h
    cases ha
  | array items =>
    cases depth with
    | zero => cases h
    | succ depth =>
      obtain ⟨a, -, ha⟩ := check_map_eq_ok.1 h
      cases ha
  | object fields =>
    cases depth with
    | zero => cases h
    | succ depth =>
      obtain ⟨a, -, ha⟩ := check_map_eq_ok.1 h
      cases ha

end Source

/-- To read a document is to read its source, then to take the value of that, then to put the value
into normal form. -/
theorem parse_eq_ok {s : String} {v : Json} : parse s = .ok v
    ↔ ∃ source u, Source.ofText s = .ok source ∧ source.value maxDepth = .ok u
      ∧ u.normalize = v := by
  simp only [parse, check_bind_eq_ok]
  constructor
  · rintro ⟨source, hs, u, hu, h⟩
    cases h
    exact ⟨source, u, hs, hu, rfl⟩
  · rintro ⟨source, u, hs, hu, rfl⟩
    exact ⟨source, hs, u, hu, rfl⟩

/-- A number is in normal form, and nothing else becomes one. -/
theorem eq_number_of_normalize {v : Json} {n : Number} (h : v.normalize = .number n) :
    v = .number n := by
  cases v with
  | number m => exact h
  | _ => cases h

/-! ## Numbers that are read back -/

/-- The characters of written numbers. -/
def IsNumeral (c : Char) : Prop := c.isDigit = true ∨ c ∈ ['-', '+', '.', 'e']

theorem IsNumeral.not_isBlank {c : Char} (h : IsNumeral c) : isBlank c = false := by
  rcases h with h | h
  · exact Source.isBlank_of_isDigit h
  · simp only [List.mem_cons, List.not_mem_nil, or_false] at h
    rcases h with rfl | rfl | rfl | rfl <;> rfl

/-- A whole number is written with digits only. -/
theorem isNumeral_of_mem_digitsOf {n : Nat} {c : Char} (h : c ∈ Decimal.digitsOf n) :
    IsNumeral c := .inl (Decimal.isDigit_of_mem_digitsOf c h)

/-- Digits written in full are digits, points and zeros that are filled in. -/
theorem isNumeral_of_mem_positional {d : Decimal} {pointAlways : Bool} {c : Char}
    (h : c ∈ d.positional pointAlways) : IsNumeral c := by
  have hzero : IsNumeral '0' := .inl rfl
  have hpoint : IsNumeral '.' := .inr (by simp)
  unfold Decimal.positional at h
  dsimp only at h
  -- the point stands behind the digits, between them or in front of them
  split at h
  · simp only [List.mem_append, List.mem_replicate] at h
    rcases h with (h | h) | h
    · exact isNumeral_of_mem_digitsOf h
    · exact h.2 ▸ hzero
    · split at h <;> simp at h
      rcases h with rfl | rfl
      · exact hpoint
      · exact hzero
  · split at h
    · simp only [List.mem_append, List.mem_cons] at h
      rcases h with h | rfl | h
      · exact isNumeral_of_mem_digitsOf (List.mem_of_mem_take h)
      · exact hpoint
      · exact isNumeral_of_mem_digitsOf (List.mem_of_mem_drop h)
    · simp only [List.mem_append, List.mem_cons, List.mem_replicate] at h
      rcases h with (rfl | rfl | h) | h
      · exact hzero
      · exact hpoint
      · exact h.2 ▸ hzero
      · exact isNumeral_of_mem_digitsOf h

/-- Digits with a power behind them have the mark and the sign of the power, too. -/
theorem isNumeral_of_mem_scientific {d : Decimal} {c : Char} (h : c ∈ d.scientific) :
    IsNumeral c := by
  have hmarks : ∀ c ∈ ['-', '+', '.', 'e'], IsNumeral c := fun _ h => .inr h
  unfold Decimal.scientific at h
  simp only [List.mem_append, List.mem_cons] at h
  -- first digit, the others behind a point, the mark, its sign and the digits of the power
  rcases h with (h | h) | rfl | rfl | h
  · exact isNumeral_of_mem_digitsOf (List.mem_of_mem_take h)
  · split at h
    · cases h
    · rcases List.mem_cons.1 h with rfl | h
      · exact hmarks _ (by simp)
      · exact isNumeral_of_mem_digitsOf (List.mem_of_mem_drop h)
  · exact hmarks _ (by simp)
  · split <;> exact hmarks _ (by simp)
  · exact isNumeral_of_mem_digitsOf h

namespace Number

/-- A number is written with digits, signs, a point and an `e`. -/
theorem isNumeral_of_mem_write {n : Number} {c : Char} (h : c ∈ n.write) : IsNumeral c := by
  have hminus : IsNumeral '-' := .inr (by simp)
  cases n with
  | whole n fits => exact isNumeral_of_mem_digitsOf h
  | negative n fits =>
    rcases List.mem_cons.1 h with rfl | h
    · exact hminus
    · exact isNumeral_of_mem_digitsOf h
  | double d finite =>
    simp only [write, writeDouble, List.mem_append] at h
    rcases h with h | h
    · split at h <;> simp at h
      exact h ▸ hminus
    · split at h
      · exact isNumeral_of_mem_positional h
      · exact isNumeral_of_mem_scientific h

/-- The number is read from its written form as itself. -/
def IsReadBack (n : Number) : Prop := parse (render (.number n)) = .ok (.number n)

/-- Is this number what a text is read as? -/
def isRead (n : Number) (s : String) : Bool :=
  match parse s with
  | .ok (.number m) => m = n
  | _ => false

/-- A number is read back from a text if the text is a document that is this number. -/
theorem isRead_iff {n : Number} {s : String} : n.isRead s = true ↔ parse s = .ok (.number n) := by
  unfold isRead
  split
  · next heq => simp [heq]
  · next hnot =>
    exact ⟨fun h => (nomatch h), fun h => absurd h (hnot n)⟩

instance (n : Number) : Decidable n.IsReadBack := decidable_of_iff _ isRead_iff

/-- What a number that is read back is read as, whatever closes it. -/
theorem IsReadBack.exists_parts {n : Number} (h : n.IsReadBack) :
    ∃ parts, parts.value = .ok (.number n)
      ∧ (∃ c cs, n.write = c :: cs ∧ (c = '-' ∨ c.isDigit = true))
      ∧ ∀ fuel r, Closes r → Source.read (fuel + 1) (n.write ++ r) = .ok (.number parts, r) := by
  obtain ⟨source, u, hs, hu, hn⟩ := parse_eq_ok.1 h
  rw [eq_number_of_normalize hn] at hu
  obtain ⟨parts, rfl, hparts⟩ := Source.exists_parts_of_value hu
  rw [Source.ofText, render, String.toList_ofList] at hs
  obtain ⟨r, hread, hr⟩ := Source.ofChars_eq_ok.1 hs
  rw [Json.write] at hread
  refine ⟨parts, hparts, ?_⟩
  cases hw : n.write with
  | nil => rw [hw] at hread; cases hread
  | cons c cs =>
    have hblank : ∀ d ∈ c :: cs, isBlank d = false := fun d hd =>
      (isNumeral_of_mem_write (hw ▸ hd)).not_isBlank
    -- nothing is left, because what is left would be blank
    have hrest (hsuffix : r <:+ c :: cs) : r = [] := by
      cases r with
      | nil => rfl
      | cons d r =>
        rw [Source.skipBlanks_cons (hblank d (hsuffix.subset (by simp)))] at hr
        cases hr
    rw [hw] at hread
    rcases Source.read_eq_number (hblank c (by simp)) hread with ⟨rfl, hm⟩ | ⟨hd, hm⟩
    · cases hrest ((readMagnitude_suffix hm).trans (List.suffix_cons _ _))
      exact ⟨⟨_, _, rfl, .inl rfl⟩, fun fuel r hr => readMagnitude_append hm hr⟩
    · cases hrest (readMagnitude_suffix hm)
      refine ⟨⟨_, _, rfl, .inr hd⟩, fun fuel r hr => ?_⟩
      rw [List.cons_append, Source.read_digit hd]
      exact readMagnitude_append hm hr

/-- Digits alone are read as the whole number that they are the digits of. -/
theorem readMagnitude_digitsOf (negative : Bool) (n : Nat) :
    readMagnitude negative (Decimal.digitsOf n)
      = .ok (.number ⟨negative, Decimal.digitsOf n, none, none⟩, []) := by
  refine readMagnitude_eq_ok.2 ⟨Decimal.digitsOf n, [], none, [], none, ?_, rfl, rfl, rfl⟩
  have hs := Double.spanDigits_append (Decimal.isDigit_of_mem_digitsOf (n := n))
    closes_nil.noDigitFirst
  rw [List.append_nil] at hs
  refine readWhole_eq_ok.2 ⟨hs, Nat.toDigits_ne_nil, ?_⟩
  -- zero is the one number that begins with a zero
  rcases Nat.eq_zero_or_pos n with rfl | hn
  · exact .inl rfl
  · obtain ⟨c, ds, hds, hc⟩ := Decimal.head_digitsOf hn
    rw [hds]
    exact .inr fun d hd => by cases hd; exact hc

/-- A number that is written as digits with a sign or none is read back. -/
theorem isReadBack_of_digits (negative : Bool) {k : Nat} {n : Number} (hk : k < 1 <<< 64)
    (hn : ofMagnitude negative k = .number n)
    (h : ∀ fuel, Source.read (fuel + 1) n.write = readMagnitude negative (Decimal.digitsOf k)) :
    n.IsReadBack := by
  -- the whole text is read, since digits go on to its end
  have hread : Source.ofText (render (.number n))
      = .ok (.number ⟨negative, Decimal.digitsOf k, none, none⟩) := by
    rw [Source.ofText, render, String.toList_ofList, Source.ofChars_eq_ok]
    exact ⟨[], (h _).trans (readMagnitude_digitsOf negative k), rfl⟩
  -- without a point and a power the value is that of the digits
  have hvalue : NumberParts.value ⟨negative, Decimal.digitsOf k, none, none⟩
      = .ok (.number n) := by
    rw [NumberParts.value]
    dsimp only
    rw [Decimal.valueOf_digitsOf, if_pos hk, hn]
  exact parse_eq_ok.2 ⟨_, _, hread, hvalue, rfl⟩

/-- A whole number of 64 bits is read back. -/
theorem isReadBack_whole (n : Nat) (fits : n < 1 <<< 64) : (whole n fits).IsReadBack := by
  refine isReadBack_of_digits false fits ?_ fun fuel => ?_
  · rw [ofMagnitude, if_neg (by simp), ofNat, dif_pos fits]
  · cases hds : Decimal.digitsOf n with
    | nil => exact absurd hds Nat.toDigits_ne_nil
    | cons c ds =>
      rw [write, hds]
      exact Source.read_digit (Decimal.isDigit_of_mem_digitsOf (n := n) c (by simp [hds])) fuel ds

/-- A negative number of 64 bits is read back. -/
theorem isReadBack_negative (n : Nat) (fits : 0 < n ∧ n ≤ 1 <<< 63) :
    (negative n fits).IsReadBack := by
  have hn : n < 1 <<< 64 := Nat.lt_of_le_of_lt fits.2 (by decide)
  refine isReadBack_of_digits true hn ?_ fun fuel => ?_
  · rw [ofMagnitude, if_pos rfl, dif_pos fits]
  · rw [write, Source.read_minus]

end Number

end Rehearsal.Json

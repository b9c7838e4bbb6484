import Rehearsal.Proofs.Charset.Forms

/-!
# Where bytes stop being text

Bytes that cannot be read have a longest beginning that can (`IsValidUpTo`). An error tells a place,
counted behind the mark, and for UTF-16 an odd byte at the end is found before anything else. Main
statement: the place is the end of that beginning, unless an odd byte at the end hides a fault in
front of it; no beginning ends behind the place (`malformed_offset`).
-/

namespace Rehearsal.Charset

open Text (isValid_toNat toNat_ofNat)

/-- The longest beginning of the bytes that is read has `n` bytes. -/
structure IsValidUpTo {ε α : Type} (read : Bytes → Except ε α) (bs : Bytes) (n : Nat) : Prop where
  reads : ∃ p a, p <+: bs ∧ p.length = n ∧ read p = .ok a
  longest : ∀ p a, p <+: bs → read p = .ok a → p.length ≤ n

section
variable {ε α ε' β : Type} {read : Bytes → Except ε α} {read' : Bytes → Except ε' β} {bs cs : Bytes}
  {n : Nat}

/-- Bytes that are read are their own longest beginning. -/
theorem isValidUpTo_length {a : α} (h : read bs = .ok a) : IsValidUpTo read bs bs.length :=
  ⟨⟨bs, a, List.prefix_refl bs, rfl, h⟩, fun _ _ hp _ => hp.length_le⟩

/-- The bytes themselves are their longest beginning only if they are read. -/
theorem IsValidUpTo.eq_length_iff (h : IsValidUpTo read bs n) :
    n = bs.length ↔ ∃ a, read bs = .ok a := by
  constructor
  · rintro rfl
    obtain ⟨p, a, hp, hlen, ha⟩ := h.reads
    exact ⟨a, hp.eq_of_length hlen ▸ ha⟩
  · rintro ⟨a, ha⟩
    obtain ⟨p, -, hp, rfl, -⟩ := h.reads
    exact Nat.le_antisymm hp.length_le (h.longest bs a (List.prefix_refl bs) ha)

/-- The same beginnings are read. -/
theorem IsValidUpTo.congr (h : IsValidUpTo read bs n)
    (hsame : ∀ p, (p <+: bs ∧ ∃ a, read p = .ok a) ↔ (p <+: cs ∧ ∃ b, read' p = .ok b)) :
    IsValidUpTo read' cs n := by
  obtain ⟨p, a, hp, hlen, ha⟩ := h.reads
  obtain ⟨hp', b, hb⟩ := (hsame p).1 ⟨hp, a, ha⟩
  refine ⟨⟨p, b, hp', hlen, hb⟩, fun q b hq hb => ?_⟩
  obtain ⟨hq', a, ha⟩ := (hsame q).2 ⟨hq, b, hb⟩
  exact h.longest q a hq' ha

end

/-! ## Beginnings of encoded texts -/

/-- Behind a text that no other character follows there is no longer text, if every character is
known by its code. -/
theorem length_le_of_stuck {α : Type} {code : Char → List α}
    (hcode : ∀ {c d r q}, code c ++ r = code d ++ q → c = d ∧ r = q) {rest : List α}
    (hstuck : ∀ c r, rest ≠ code c ++ r) {cs ds : List Char} {q : List α}
    (h : cs.flatMap code ++ rest = ds.flatMap code ++ q) :
    (ds.flatMap code).length ≤ (cs.flatMap code).length := by
  induction cs generalizing ds with
  | nil =>
    cases ds with
    | nil => exact Nat.le_refl _
    -- the other text goes on where none of its characters begins
    | cons d ds => exact absurd (by simpa using h) (hstuck d (ds.flatMap code ++ q))
  | cons c cs ih =>
    cases ds with
    | nil => exact Nat.zero_le _
    | cons d ds =>
      simp only [List.flatMap_cons, List.append_assoc] at h
      obtain ⟨rfl, hrest⟩ := hcode h
      simp only [List.flatMap_cons, List.length_append]
      exact Nat.add_le_add_left (ih hrest) _

/-! ## UTF-8 -/

section Utf8
variable {bs : Bytes} {n : Nat}

/-- In UTF-8 a character is known by its code. -/
theorem encodeChar_append_inj {c d : Char} {r q : Bytes}
    (h : String.utf8EncodeChar c ++ r = String.utf8EncodeChar d ++ q) : c = d ∧ r = q := by
  have hread := Text.Utf8.readChar_encode c r
  rw [h, Text.Utf8.readChar_encode] at hread
  cases hread
  exact ⟨rfl, rfl⟩

/-- In front of the fault there is a text, and no character begins there. -/
theorem exists_stuck_of_decodeFrom {offset : Nat}
    (h : Text.Utf8.decodeFrom offset bs = .error n) : ∃ cs rest, bs = Text.Utf8.encode cs ++ rest
      ∧ n = offset + (Text.Utf8.encode cs).length ∧ ∀ c r, rest ≠ String.utf8EncodeChar c ++ r := by
  fun_induction Text.Utf8.decodeFrom offset bs with
  | case1 => cases h
  | case2 offset b bs e he =>
    cases h
    -- a character in front would have been read
    refine ⟨[], b :: bs, rfl, rfl, fun c r hc => ?_⟩
    rw [hc, Text.Utf8.readChar_encode] at he
    cases he
  | case3 offset b bs c r hr _ ih =>
    obtain ⟨m, hm, rfl⟩ := check_map_eq_error.1 h
    obtain ⟨cs, rest, rfl, rfl, hstuck⟩ := ih hm
    refine ⟨c :: cs, rest, ?_, ?_, hstuck⟩
    · rw [Text.Utf8.eq_encode_of_readChar hr, Text.Utf8.encode_cons, List.append_assoc]
    · rw [Text.Utf8.encode_cons, List.length_append, String.length_utf8EncodeChar, Nat.add_assoc]

/-- In UTF-8 the error tells where the longest beginning ends. -/
theorem isValidUpTo_utf8 (h : Text.Utf8.decode? bs = .error n) :
    IsValidUpTo Text.Utf8.decode? bs n := by
  obtain ⟨cs, rest, rfl, hn, hstuck⟩ := exists_stuck_of_decodeFrom h
  rw [Nat.zero_add] at hn
  refine ⟨⟨_, cs, List.prefix_append _ _, hn.symm, Text.Utf8.decode?_eq_ok.2 rfl⟩, ?_⟩
  rintro p ds ⟨q, hq⟩ hp
  rw [Text.Utf8.decode?_eq_ok.1 hp] at hq ⊢
  rw [hn]
  exact length_le_of_stuck encodeChar_append_inj hstuck hq.symm

end Utf8

/-! ## UTF-16 -/

section Utf16
variable {little : Bool} {bs : Bytes} {n u v : Nat} {us : List Nat} {c d : Char}

/-- The units of a character are no surrogate, or a high one and a low one. -/
theorem unitsOf_cases (c : Char) :
    (c.toNat < 0xD800 ∨ 0xE000 ≤ c.toNat) ∧ unitsOf c = [c.toNat]
      ∨ ∃ u v, unitsOf c = [u, v] ∧ (0xD800 ≤ u ∧ u < 0xDC00) ∧ (0xDC00 ≤ v ∧ v < 0xE000)
        ∧ c.toNat = 0x10000 + (u - 0xD800) * 0x400 + (v - 0xDC00) := by
  have hc := isValid_toNat c
  unfold unitsOf
  split
  · exact .inl ⟨by omega, rfl⟩
  · refine .inr ⟨_, _, rfl, ?_, ?_, ?_⟩ <;> omega

/-- In UTF-16 a character is known by its units. -/
theorem unitsOf_append_inj {r q : List Nat} (h : unitsOf c ++ r = unitsOf d ++ q) :
    c = d ∧ r = q := by
  rcases unitsOf_cases c with ⟨hc, hcu⟩ | ⟨u, v, hcu, hu, hv, hc⟩ <;>
    rcases unitsOf_cases d with ⟨hd, hdu⟩ | ⟨u', v', hdu, hu', hv', hd⟩ <;>
    simp only [hcu, hdu, List.cons_append, List.nil_append, List.cons.injEq] at h
  · exact ⟨Char.toNat_inj.1 h.1, h.2⟩
  · -- one unit is a surrogate and the other is none
    omega
  · omega
  · obtain ⟨rfl, rfl, rfl⟩ := h
    exact ⟨Char.toNat_inj.1 (hc.trans hd.symm), rfl⟩

/-- No character begins with a low surrogate, or with a high one that no low one follows. -/
theorem ne_unitsOf_append (h : 0xDC00 ≤ u ∧ u < 0xE000
      ∨ (0xD800 ≤ u ∧ u < 0xDC00) ∧ ∀ v ∈ us.head?, ¬ (0xDC00 ≤ v ∧ v < 0xE000))
    (c : Char) (r : List Nat) : u :: us ≠ unitsOf c ++ r := by
  intro hc
  rcases unitsOf_cases c with ⟨hn, hcu⟩ | ⟨u', v', hcu, hu', hv', -⟩ <;>
    rw [hcu] at hc <;> obtain ⟨rfl, rfl⟩ := List.cons.inj hc
  · omega
  · rcases h with h | ⟨-, h⟩
    · omega
    · exact h v' rfl hv'

/-- In front of the fault there is a text, and no character begins there. -/
theorem exists_stuck_of_ofUnits {offset : Nat} (hus : ∀ u ∈ us, u < 0x10000)
    (h : ofUnits offset us = .error n) : ∃ (cs : List Char) (rest : List Nat),
      us = cs.flatMap unitsOf ++ rest ∧ n = offset + 2 * (cs.flatMap unitsOf).length
        ∧ ∀ c r, rest ≠ unitsOf c ++ r := by
  fun_induction ofUnits offset us with
  | case1 => cases h
  | case2 offset u hu v vs hv ih =>
    obtain ⟨m, hm, rfl⟩ := check_map_eq_error.1 h
    obtain ⟨cs, rest, rfl, rfl, hstuck⟩ := ih (fun w hw => hus w (by simp [hw])) hm
    have hc := unitsOf_pair hu hv (toNat_ofNat (by omega))
    refine ⟨Char.ofNat (0x10000 + (u - 0xD800) * 0x400 + (v - 0xDC00)) :: cs, rest, ?_, ?_,
      hstuck⟩
    · simp [hc]
    · simp [hc]
      omega
  | case3 offset u hu v vs hv =>
    cases h
    exact ⟨[], _, rfl, rfl, ne_unitsOf_append (.inr ⟨hu, by simpa using hv⟩)⟩
  | case4 offset u hu =>
    cases h
    exact ⟨[], _, rfl, rfl, ne_unitsOf_append (.inr ⟨hu, by simp⟩)⟩
  | case5 offset u us hu hu' =>
    cases h
    exact ⟨[], _, rfl, rfl, ne_unitsOf_append (.inl hu')⟩
  | case6 offset u us hu hu' ih =>
    obtain ⟨m, hm, rfl⟩ := check_map_eq_error.1 h
    obtain ⟨cs, rest, rfl, rfl, hstuck⟩ := ih (fun w hw => hus w (by simp [hw])) hm
    have hlt : u < 0x10000 := hus u (by simp)
    have hn := toNat_ofNat (n := u) (by omega)
    have hc : unitsOf (Char.ofNat u) = [u] := by rw [unitsOf_single (by rwa [hn]), hn]
    refine ⟨Char.ofNat u :: cs, rest, ?_, ?_, hstuck⟩
    · simp [hc]
    · simp [hc]
      omega

/-- Units are read from the front, whatever comes behind them. -/
theorem units_flatMap_unitBytes_append (hus : ∀ u ∈ us, u < 0x10000) (q : Bytes) :
    units little (us.flatMap (unitBytes little) ++ q) = us ++ units little q := by
  induction us with
  | nil => rfl
  | cons u us ih =>
    rw [List.flatMap_cons, List.append_assoc, units_unitBytes_append (hus u (by simp)),
      ih fun w hw => hus w (by simp [hw])]
    rfl

/-- In an even number of bytes the fault is the first one. -/
theorem isValidUpTo_decode16_of_even (heven : bs.length % 2 = 0)
    (h : decode16 little bs = .error n) : IsValidUpTo (decode16 little) bs n := by
  obtain ⟨hbs, hus⟩ := flatMap_unitBytes_units little heven
  rw [decode16, if_pos heven] at h
  obtain ⟨cs, rest, hunits, hn, hstuck⟩ := exists_stuck_of_ofUnits hus h
  rw [Nat.zero_add] at hn
  refine ⟨⟨encode16 little cs, cs, ?_, ?_, decode16_encode16 little cs⟩, ?_⟩
  · rw [← hbs, hunits, List.flatMap_append]
    exact List.prefix_append _ _
  · rw [hn, encode16, length_flatMap_unitBytes]
  · rintro p ds ⟨q, hq⟩ hp
    rw [decode16_eq_ok.1 hp] at hq ⊢
    have hsame : cs.flatMap unitsOf ++ rest = ds.flatMap unitsOf ++ units little q := by
      rw [← hunits, ← hq, encode16, units_flatMap_unitBytes_append (unitsOf_flatMap_lt ds)]
    have hle : (ds.flatMap unitsOf).length ≤ (cs.flatMap unitsOf).length :=
      length_le_of_stuck unitsOf_append_inj hstuck hsame
    rw [hn, encode16, length_flatMap_unitBytes]
    omega

/-- An odd byte at the end belongs to no text. -/
theorem isValidUpTo_decode16_dropLast (hodd : bs.length % 2 = 1) :
    IsValidUpTo (decode16 little) bs.dropLast n ↔ IsValidUpTo (decode16 little) bs n := by
  have hsame : ∀ p, (p <+: bs.dropLast ∧ ∃ cs, decode16 little p = .ok cs)
      ↔ (p <+: bs ∧ ∃ cs, decode16 little p = .ok cs) := by
    refine fun p => and_congr_left fun ⟨cs, hcs⟩ => ?_
    have heven : p.length % 2 = 0 := by
      rw [decode16_eq_ok.1 hcs, encode16, length_flatMap_unitBytes]
      exact Nat.mul_mod_right 2 _
    rw [List.dropLast_eq_take, List.prefix_take_iff]
    refine and_iff_left_of_imp fun hp => ?_
    have hle := hp.length_le
    omega
  exact ⟨fun h => h.congr hsame, fun h => h.congr fun p => (hsame p).symm⟩

end Utf16

/-! ## ASCII -/

/-- In ASCII the error tells the first byte that is none. -/
theorem isValidUpTo_ascii {bs : Bytes} {n : Nat} (h : Charset.ascii.decodeChars bs = .error n) :
    IsValidUpTo Charset.ascii.decodeChars bs n := by
  have hread {p : Bytes} : (∃ cs, Charset.ascii.decodeChars p = .ok cs) ↔ ∀ b ∈ p, b < 0x80 := by
    rw [← findIdx?_eq_none, decodeChars]
    cases p.findIdx? fun b => 0x80 ≤ b <;> simp
  unfold decodeChars at h
  dsimp only at h
  split at h
  · next i hi =>
    cases h
    obtain ⟨hlt, hhigh, hlow⟩ := List.findIdx?_eq_some_iff_getElem.1 hi
    simp only [decide_eq_true_eq, UInt8.not_le] at hhigh hlow
    refine ⟨?_, fun p cs hp hcs => ?_⟩
    · have hbefore : ∀ b ∈ bs.take n, b < 0x80 := by
        intro b hb
        obtain ⟨j, hj, rfl⟩ := List.mem_take_iff_getElem.1 hb
        exact hlow j (by omega)
      obtain ⟨cs, hcs⟩ := hread.2 hbefore
      exact ⟨bs.take n, cs, List.take_prefix n bs, List.length_take_of_le (Nat.le_of_lt hlt), hcs⟩
    · -- a longer beginning would hold the byte that is none
      refine Nat.le_of_not_lt fun hn => ?_
      have hmem : bs[n] ∈ p := hp.getElem hn ▸ List.getElem_mem hn
      exact absurd (hread.1 ⟨cs, hcs⟩ _ hmem) (UInt8.not_lt.2 hhigh)
  · cases h

/-! ## Marks -/

/-- Read bytes without looking for a mark in front. -/
def readPlain (charset : Charset) (bs : Bytes) : Except Nat (List Char) :=
  match charset with
  | .utf8 => Text.Utf8.decode? bs
  | .utf16 | .utf16be => decode16 false bs
  | .utf16le => decode16 true bs
  | .latin1 | .ascii => charset.decodeChars bs

/-- The bytes are read in this form: its mark and the rest. No other mark is there if it has
none. -/
structure Form.Fits (f : Form) (charset : Charset) (bs rest : Bytes) : Prop where
  mem : f ∈ charset.forms
  eq : bs = f.mark ++ rest
  unmarked : f.mark = [] → ∀ g ∈ charset.forms, g.mark <+: bs → g.mark = []

/-- A charset's bytes come in units of this size. -/
def unitSize : Charset → Nat
  | .utf16 | .utf16le | .utf16be => 2
  | .utf8 | .latin1 | .ascii => 1

section Marks
variable {charset : Charset} {f : Form} {bs rest p : Bytes} {n : Nat}

/-- Bytes are read in one of the charset's forms, marked if one of its marks is in front. -/
theorem exists_fits (charset : Charset) (bs : Bytes) :
    ∃ (f : Form) (rest : Bytes), f.Fits charset bs rest := by
  by_cases h : ∃ g ∈ charset.forms, g.mark ≠ [] ∧ g.mark <+: bs
  · obtain ⟨g, hg, hne, rest, hrest⟩ := h
    exact ⟨g, rest, hg, hrest.symm, fun he => absurd he hne⟩
  · have hplain : ∃ body, (⟨[], body⟩ : Form) ∈ charset.forms := by
      cases charset <;> exact ⟨_, List.mem_cons_self⟩
    obtain ⟨body, hbody⟩ := hplain
    exact ⟨_, bs, hbody, rfl, fun _ g hg hp => by_contra fun hne => h ⟨g, hg, hne, hp⟩⟩

/-- A beginning that goes on behind the mark is read in the same form. -/
theorem Form.Fits.of_prefix (h : f.Fits charset bs rest) (hp : p <+: rest) :
    f.Fits charset (f.mark ++ p) p where
  mem := h.mem
  eq := rfl
  unmarked he g hg hgp := h.unmarked he g hg
    (h.eq ▸ hgp.trans ((List.prefix_append_right_inj f.mark).2 hp))

/-- Another mark than the form's is not there. -/
theorem Form.Fits.ne_append (h : f.Fits charset bs rest) (he : f.mark = []) {mark : Bytes}
    (hmark : mark ∈ charset.forms.map Form.mark) (hne : mark ≠ []) (r : Bytes) :
    bs ≠ mark ++ r := by
  rintro rfl
  obtain ⟨g, hg, rfl⟩ := List.mem_map.1 hmark
  exact hne (h.unmarked he g hg (List.prefix_append _ r))

/-- Taking the mark away, which is the form's own or not there, leaves the rest. -/
theorem Form.Fits.withoutMark_eq (h : f.Fits charset bs rest) {mark : Bytes}
    (hmark : mark ∈ charset.forms.map Form.mark) (hf : f.mark = [] ∨ f.mark = mark) :
    withoutMark mark bs = rest := by
  by_cases hm : f.mark = mark
  · rw [h.eq, hm, withoutMark_append]
  · have he : f.mark = [] := hf.resolve_right hm
    rw [withoutMark_eq_self (h.ne_append he hmark fun hne => hm (he.trans hne.symm)), h.eq, he,
      List.nil_append]

/-- What is read are the bytes behind the mark. -/
theorem Form.Fits.decodeChars_eq (h : f.Fits charset bs rest) :
    charset.decodeChars bs = f.body.readPlain rest := by
  have hf := h.mem
  cases charset with
  | utf8 =>
    simp only [forms, List.mem_cons, List.not_mem_nil, or_false] at hf
    rcases hf with rfl | rfl <;>
      exact congrArg Text.Utf8.decode? (h.withoutMark_eq (by decide) (by decide))
  | utf16 =>
    simp only [forms, List.mem_cons, List.not_mem_nil, or_false] at hf
    rcases hf with rfl | rfl | rfl
    · have hlittle : behind? markLittle bs = none := Option.eq_none_iff_forall_ne_some.2
        fun r hr => h.ne_append rfl (by decide) (by decide) r (behind?_eq_some.1 hr)
      rw [decodeChars, hlittle]
      exact congrArg (decode16 false) (h.withoutMark_eq (by decide) (by decide))
    · rw [h.eq]
      exact congrArg (decode16 false) (withoutMark_append markBig rest)
    · rw [h.eq, decodeChars, behind?_append]
      rfl
  | utf16le =>
    simp only [forms, List.mem_cons, List.not_mem_nil, or_false] at hf
    rcases hf with rfl | rfl <;>
      exact congrArg (decode16 true) (h.withoutMark_eq (by decide) (by decide))
  | utf16be =>
    simp only [forms, List.mem_cons, List.not_mem_nil, or_false] at hf
    rcases hf with rfl | rfl <;>
      exact congrArg (decode16 false) (h.withoutMark_eq (by decide) (by decide))
  | latin1 | ascii =>
    simp only [forms, List.mem_cons, List.not_mem_nil, or_false] at hf
    subst hf
    rw [h.eq]
    rfl

/-- A beginning that is read is the mark and one of the rest, or no longer than the mark. -/
theorem Form.Fits.isValidUpTo (h : f.Fits charset bs rest)
    (hn : IsValidUpTo f.body.readPlain rest n) :
    IsValidUpTo charset.decodeChars bs (f.mark.length + n) := by
  obtain ⟨p, cs, hp, rfl, hcs⟩ := hn.reads
  refine ⟨⟨f.mark ++ p, cs, ?_, List.length_append, ?_⟩, fun q ds hq hds => ?_⟩
  · rw [h.eq]
    exact (List.prefix_append_right_inj f.mark).2 hp
  · rw [(h.of_prefix hp).decodeChars_eq, hcs]
  · rcases List.prefix_or_prefix_of_prefix hq (h.eq ▸ List.prefix_append f.mark rest) with
      hle | ⟨r, rfl⟩
    · exact Nat.le_trans hle.length_le (Nat.le_add_right _ _)
    · have hr : r <+: rest := (List.prefix_append_right_inj f.mark).1 (h.eq ▸ hq)
      rw [(h.of_prefix hr).decodeChars_eq] at hds
      rw [List.length_append]
      exact Nat.add_le_add_left (hn.longest r ds hr hds) _

/-- The marks of a charset are made of whole units, and the forms have the charset's unit. -/
theorem unitSize_of_mem_forms (hf : f ∈ charset.forms) :
    f.body.unitSize = charset.unitSize ∧ charset.unitSize ∣ f.mark.length := by
  cases charset
  all_goals
    simp only [forms, List.mem_cons, List.not_mem_nil, or_false] at hf
    rcases hf with rfl | rfl | rfl
  all_goals decide

/-- In whole units the error tells where the longest beginning ends. -/
theorem isValidUpTo_readPlain (hunit : charset.unitSize ∣ bs.length)
    (h : charset.readPlain bs = .error n) : IsValidUpTo charset.readPlain bs n := by
  cases charset with
  | utf8 => exact isValidUpTo_utf8 h
  | utf16 | utf16le | utf16be =>
    exact isValidUpTo_decode16_of_even (Nat.mod_eq_zero_of_dvd hunit) h
  | latin1 => cases h
  | ascii => exact isValidUpTo_ascii h

/-- Whole units have a longest beginning. -/
theorem exists_isValidUpTo_readPlain (hunit : charset.unitSize ∣ bs.length) :
    ∃ n, IsValidUpTo charset.readPlain bs n := by
  cases h : charset.readPlain bs with
  | ok cs => exact ⟨_, isValidUpTo_length h⟩
  | error n => exact ⟨n, isValidUpTo_readPlain hunit h⟩

/-- The place of a torn unit is its first byte, and the bytes are valid as far as those in front of
it are. -/
theorem isValidUpTo_readPlain_torn (htorn : ¬ charset.unitSize ∣ bs.length)
    (h : charset.readPlain bs = .error n) : n + 1 = bs.length
      ∧ ∃ m, IsValidUpTo charset.readPlain bs.dropLast m ∧ IsValidUpTo charset.readPlain bs m := by
  have hwide : charset.unitSize = 2 ∧ ∃ little, charset.readPlain = decode16 little := by
    cases charset
    case utf8 | latin1 | ascii => exact absurd (Nat.one_dvd _) htorn
    case utf16 | utf16be => exact ⟨rfl, false, rfl⟩
    case utf16le => exact ⟨rfl, true, rfl⟩
  obtain ⟨hunit, little, hread⟩ := hwide
  rw [hunit] at htorn
  have hodd : bs.length % 2 = 1 := by omega
  have heven : charset.unitSize ∣ bs.dropLast.length := by
    rw [hunit, List.length_dropLast]
    omega
  obtain ⟨m, hm⟩ := exists_isValidUpTo_readPlain heven
  rw [hread] at h hm ⊢
  refine ⟨?_, m, hm, (isValidUpTo_decode16_dropLast hodd).1 hm⟩
  rw [decode16, if_neg (by omega)] at h
  cases h
  omega

end Marks

/-! ## Errors -/

section
variable {charset : Charset} {name label : String} {bs : Bytes} {offset n : Nat}

/-- The error tells the charset by the name it is known by, and the place as it was found. -/
theorem decode_eq_malformed (hname : ofName? name = some charset) :
    decode name bs = .error (.malformed label offset)
      ↔ label = charset.name ∧ charset.decodeChars bs = .error offset := by
  rw [decode, hname]
  dsimp only
  cases charset.decodeChars bs <;> simp [eq_comm]

/-- Reading by name reads the same beginnings. -/
theorem isValidUpTo_decode (hname : ofName? name = some charset)
    (h : IsValidUpTo charset.decodeChars bs n) : IsValidUpTo (decode name) bs n := by
  refine h.congr fun p => and_congr_right fun _ => ?_
  simp only [decode_eq_ok hname]
  exact ⟨fun ⟨cs, hcs⟩ => ⟨String.ofList cs, by rw [hcs, String.toList_ofList]⟩,
    fun ⟨s, hs⟩ => ⟨s.toList, hs⟩⟩

/-- An error in a charset, under any spelling of one of its names, tells a place behind the mark.
Where the bytes are whole units it is the end of the longest beginning that can be read. Of an odd
number of bytes of UTF-16 it is the last one; the longest beginning is then that of the other bytes,
and it ends there only if these are all read. So the place is right by itself if no mark is in front
and there is no such byte, or no fault in front of it. -/
theorem malformed_offset (hname : charset.IsNamed name)
    (h : decode name bs = .error (.malformed label offset)) :
    ∃ (f : Form) (rest : Bytes) (valid : Nat), label = charset.name ∧ f.Fits charset bs rest
      ∧ IsValidUpTo (decode name) bs valid
      ∧ (charset.unitSize ∣ bs.length → valid = f.mark.length + offset)
      ∧ (¬ charset.unitSize ∣ bs.length → f.mark.length + offset + 1 = bs.length
        ∧ IsValidUpTo (decode name) bs.dropLast valid
        ∧ (valid = f.mark.length + offset ↔ ∃ s, decode name bs.dropLast = .ok s))
      ∧ (f.mark = [] →
        (¬ charset.unitSize ∣ bs.length → ∃ s, decode name bs.dropLast = .ok s) →
        IsValidUpTo (decode name) bs offset) := by
  have hcharset := ofName?_eq_some.2 hname
  obtain ⟨hlabel, hread⟩ := (decode_eq_malformed hcharset).1 h
  obtain ⟨f, rest, hfit⟩ := exists_fits charset bs
  rw [hfit.decodeChars_eq] at hread
  obtain ⟨hbody, hmark⟩ := unitSize_of_mem_forms hfit.mem
  have hlength : bs.length = f.mark.length + rest.length := by rw [hfit.eq, List.length_append]
  have hrest : f.body.unitSize ∣ rest.length ↔ charset.unitSize ∣ bs.length := by
    rw [hbody, hlength, Nat.dvd_add_right hmark]
  -- an odd byte at the end is found before any other fault
  by_cases hunit : charset.unitSize ∣ bs.length
  · have hvalid := isValidUpTo_decode hcharset
      (hfit.isValidUpTo (isValidUpTo_readPlain (hrest.2 hunit) hread))
    refine ⟨f, rest, _, hlabel, hfit, hvalid, fun _ => rfl, fun htorn => absurd hunit htorn,
      fun he _ => ?_⟩
    rwa [he, List.length_nil, Nat.zero_add] at hvalid
  · obtain ⟨hlast, m, hfront, hm⟩ := isValidUpTo_readPlain_torn (mt hrest.1 hunit) hread
    have hne : rest ≠ [] := List.ne_nil_of_length_pos (by omega)
    have hdrop : bs.dropLast = f.mark ++ rest.dropLast := by
      rw [hfit.eq, List.dropLast_append_of_ne_nil hne]
    have hvalid := isValidUpTo_decode hcharset (hfit.isValidUpTo hm)
    have hvalidFront : IsValidUpTo (decode name) bs.dropLast (f.mark.length + m) := hdrop ▸
      isValidUpTo_decode hcharset ((hfit.of_prefix rest.dropLast_prefix).isValidUpTo hfront)
    have hplace : f.mark.length + offset = bs.dropLast.length := by
      rw [List.length_dropLast]
      omega
    have hright : f.mark.length + m = f.mark.length + offset
        ↔ ∃ s, decode name bs.dropLast = .ok s := by
      rw [hplace, hvalidFront.eq_length_iff]
    refine ⟨f, rest, _, hlabel, hfit, hvalid, fun h => absurd h hunit,
      fun _ => ⟨by omega, hvalidFront, hright⟩, fun he hs => ?_⟩
    have hm := hright.2 (hs hunit)
    rw [he, List.length_nil, Nat.zero_add, Nat.zero_add] at hm
    rw [he, List.length_nil, Nat.zero_add, hm] at hvalid
    exact hvalid

end

/-- A pair of surrogates and half a unit. -/
theorem malformed_offset_torn : Charset.utf16be.IsNamed "utf-16be"
    ∧ decode "utf-16be" [0xD8, 0x34, 0xDD, 0x1E, 0x00] = .error (.malformed "UTF-16BE" 4)
    ∧ IsValidUpTo (decode "utf-16be") [0xD8, 0x34, 0xDD, 0x1E, 0x00] 4 := by
  have hname : Charset.utf16be.IsNamed "utf-16be" := ofName?_eq_some.1 (by decide)
  have hfault : decode "utf-16be" [0xD8, 0x34, 0xDD, 0x1E, 0x00]
      = .error (.malformed "UTF-16BE" 4) := by decide
  obtain ⟨f, rest, -, -, hfit, -, -, -, hright⟩ := malformed_offset hname hfault
  have hplain : f.mark = [] := by
    obtain ⟨hf, heq, -⟩ := hfit
    simp only [forms, List.mem_cons, List.not_mem_nil, or_false] at hf
    rcases hf with rfl | rfl
    · rfl
    · cases heq
  exact ⟨hname, hfault, hright hplain fun _ => ⟨"𝄞", by decide⟩⟩

/-- The place behind a mark is not the place in the bytes, and an odd byte at the end hides a
surrogate alone in front of it. -/
theorem malformed_offset_astray :
    (decode "UTF-8" [0xEF, 0xBB, 0xBF, 0xFF] = .error (.malformed "UTF-8" 0)
      ∧ ¬ IsValidUpTo (decode "UTF-8") [0xEF, 0xBB, 0xBF, 0xFF] 0)
    ∧ decode "UTF-16BE" [0xD8, 0x00, 0x00, 0x41, 0x00] = .error (.malformed "UTF-16BE" 4)
      ∧ ¬ IsValidUpTo (decode "UTF-16BE") [0xD8, 0x00, 0x00, 0x41, 0x00] 4 := by
  have hfault : Charset.utf8.decodeChars [0xEF, 0xBB, 0xBF, 0xFF] = .error 0 :=
    Text.Utf8.decodeFrom_of_error (e := 1) (by decide)
  have hmark : decode "UTF-8" markUtf8 = .ok "" :=
    (decode_eq_ok (ofName?_name .utf8)).2 (Text.Utf8.decode?_eq_ok.2 rfl)
  have halone : decode "UTF-16BE" ([0xD8, 0x00, 0x00, 0x41, 0x00].take 4)
      = .error (.malformed "UTF-16BE" 0) := by decide
  refine ⟨⟨(decode_eq_malformed (ofName?_name .utf8)).2 ⟨rfl, hfault⟩, fun h => ?_⟩,
    by decide, fun h => ?_⟩
  · exact absurd (h.longest markUtf8 "" ⟨[0xFF], rfl⟩ hmark) (by decide)
  · obtain ⟨p, s, hp, hlen, hs⟩ := h.reads
    rw [List.prefix_iff_eq_take.1 hp, hlen, halone] at hs
    cases hs

end Rehearsal.Charset

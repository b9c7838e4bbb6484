import Rehearsal.Proofs.Charset.Forms

/-!
# Reading what can be read as ASCII

Bytes that are all ASCII begin with no byte order mark, so at most an XML declaration tells their
charset. A charset of wider units in it is to be disbelieved, but only the spellings with a hyphen
or with nothing are known for one: with a low line in the place of the hyphen UTF-16 is believed,
and what comes out is neither the text nor an error that names the charset. Main statement: this is
the only case (`text_of_ascii_iff`).
-/

namespace Rehearsal.Resource

open Charset (bytewise behind? behind?_eq_some)

/-- Bytes that are all ASCII. -/
def IsAscii (bs : Bytes) : Prop := ∀ b ∈ bs, b < 0x80

instance (bs : Bytes) : Decidable (IsAscii bs) :=
  decidable_of_iff (bs.all (· < 0x80) = true) (by simp [IsAscii])

/-- The encoding that an XML declaration at the start names. -/
def declared? (bs : Bytes) : Option String :=
  if (behind? (ascii "<?xml") bs).isSome then
    (findEncoding? (upTo 0x3F 0x3E bs)).map fun name => String.ofList (bytewise name)
  else none

/-- The name is one of UTF-16, with a low line in the place of its hyphen. -/
def IsLowLined (name : String) : Prop :=
  Text.asciiUpper name ∈ ["UTF_16", "UTF_16LE", "UTF_16BE"]

/-! ## Names of wide charsets -/

/-- A name without hyphens had no low lines either. -/
theorem eq_of_map_hyphen {u l : List Char} (hl : '-' ∉ l)
    (h : u.map (fun c => if c = '_' then '-' else c) = l) : u = l := by
  induction u generalizing l with
  | nil => exact h
  | cons c u ih =>
    subst h
    simp only [List.map_cons, List.mem_cons, not_or] at hl ⊢
    have hc : c ≠ '_' := fun hc => by simp [hc] at hl
    rw [if_neg hc, ← ih hl.2 rfl]

/-- Where hyphens are read for low lines, either one stood in the place of a hyphen. -/
theorem eq_of_map_eq_hyphen {u a b : List Char} (ha : '-' ∉ a) (hb : '-' ∉ b)
    (h : u.map (fun c => if c = '_' then '-' else c) = a ++ '-' :: b) :
    u = a ++ '-' :: b ∨ u = a ++ '_' :: b := by
  obtain ⟨u₁, u₂, rfl, h₁, h₂⟩ := List.map_eq_append_iff.1 h
  obtain ⟨c, u₃, rfl, hc, h₃⟩ := List.map_eq_cons_iff.1 h₂
  rw [eq_of_map_hyphen ha h₁, eq_of_map_hyphen hb h₃]
  split at hc
  · next hc' => exact .inr (by rw [hc'])
  · exact .inl (by rw [hc])

section
variable {name : String} {charset : Charset}

/-- Case does not matter to whether a name is known to be one of wide units. -/
theorem isWide_of_upper {u : String} (hu : Text.asciiUpper name = u)
    (h : (["UTF-16", "UTF16", "UTF-32", "UTF32", "UCS-"].any fun w =>
      Text.startsWith w.toList u.toList) = true) : isWide name = true := by
  rw [isWide, hu]
  exact h

theorem upper_eq {l : List Char} (h : (Text.asciiUpper name).toList = l) :
    Text.asciiUpper name = String.ofList l := by
  rw [← h, String.ofList_toList]

/-- A name of UTF-16 is known to be one, or has a low line in the place of its hyphen. -/
theorem isWide_or_isLowLined (h : charset.IsNamed name)
    (hc : charset ∈ [.utf16, .utf16le, .utf16be]) : isWide name = true ∨ IsLowLined name := by
  obtain ⟨n, hn, hs⟩ := h
  have hn : n ∈ ["UTF16", "UTF-16", "UTF-16LE", "UTF-16BE"] := by
    simp only [List.mem_cons, List.not_mem_nil, or_false] at hc
    rcases hc with rfl | rfl | rfl
    all_goals
      simp only [Charset.names, List.mem_cons, List.not_mem_nil, or_false] at hn
      rcases hn with rfl | rfl
    all_goals simp
  have hplain : '_' ∉ n.toList :=
    (by decide : ∀ n ∈ ["UTF16", "UTF-16", "UTF-16LE", "UTF-16BE"], '_' ∉ n.toList) n hn
  have hu := congrArg String.toList ((Charset.spells_iff hplain).1 hs)
  rw [String.toList_ofList] at hu
  -- where the name has a hyphen, the spelling has it or a low line
  have hhyphen {b : List Char} (hb : '-' ∉ b) (hn : n.toList = ['U', 'T', 'F'] ++ '-' :: b) :=
    eq_of_map_eq_hyphen (by decide) hb (hu.trans hn)
  simp only [List.mem_cons, List.not_mem_nil, or_false] at hn
  rcases hn with rfl | rfl | rfl | rfl
  · exact .inl (isWide_of_upper (upper_eq (eq_of_map_hyphen (by decide) hu)) (by decide))
  · rcases hhyphen (b := ['1', '6']) (by decide) (by decide) with h | h
    · exact .inl (isWide_of_upper (upper_eq h) (by decide))
    · exact .inr (by rw [IsLowLined, upper_eq h]; decide)
  · rcases hhyphen (b := ['1', '6', 'L', 'E']) (by decide) (by decide) with h | h
    · exact .inl (isWide_of_upper (upper_eq h) (by decide))
    · exact .inr (by rw [IsLowLined, upper_eq h]; decide)
  · rcases hhyphen (b := ['1', '6', 'B', 'E']) (by decide) (by decide) with h | h
    · exact .inl (isWide_of_upper (upper_eq h) (by decide))
    · exact .inr (by rw [IsLowLined, upper_eq h]; decide)

/-- With a low line a name of UTF-16 is not known to be one, and yet it is one. -/
theorem IsLowLined.not_isWide (h : IsLowLined name) : isWide name = false := by
  simp only [IsLowLined, List.mem_cons, List.not_mem_nil, or_false] at h
  unfold isWide
  rcases h with h | h | h <;> rw [h] <;> decide

theorem IsLowLined.exists_charset (h : IsLowLined name) :
    ∃ charset ∈ [Charset.utf16, .utf16le, .utf16be], Charset.ofName? name = some charset := by
  simp only [IsLowLined, List.mem_cons, List.not_mem_nil, or_false] at h
  unfold Charset.ofName?
  rcases h with h | h | h <;> rw [h] <;> decide

end

/-! ## Bytes that are all ASCII -/

section
variable {bs : Bytes}

theorem isAscii_cons {b : UInt8} : IsAscii (b :: bs) ↔ b < 0x80 ∧ IsAscii bs := by
  simp [IsAscii]

/-- Bytes that are all ASCII are the UTF-8 of the characters that they stand for one by one. -/
theorem encode_bytewise (h : IsAscii bs) : Text.Utf8.encode (bytewise bs) = bs := by
  induction bs with
  | nil => rfl
  | cons b bs ih =>
    obtain ⟨hb, hbs⟩ := isAscii_cons.1 h
    have hlt : (Char.ofNat b.toNat).toNat < 0x80 := by rwa [Charset.toNat_ofNat_byte]
    rw [bytewise, List.map_cons, Text.Utf8.encode_cons, Text.Utf8.encodeChar_one hlt,
      Charset.toNat_ofNat_byte, UInt8.ofNat_toNat]
    exact congrArg (b :: ·) (ih hbs)

/-- No mark is in front of them, as every mark begins beyond ASCII. -/
theorem behind?_of_isAscii {m : UInt8} {ms : Bytes} (h : IsAscii bs) (hm : ¬ m < 0x80) :
    behind? (m :: ms) bs = none := by
  cases bs with
  | nil => rfl
  | cons b bs =>
    have hne : m ≠ b := fun he => hm (he ▸ (isAscii_cons.1 h).1)
    rw [behind?, if_neg hne]

/-- Of bytes that are all ASCII at most a declaration tells the charset. -/
theorem detect?_of_isAscii (h : IsAscii bs) :
    detect? bs = (declared? bs).filter (!isWide ·) := by
  have h₁ : behind? Charset.markUtf8 bs = none := behind?_of_isAscii h (by decide)
  have h₂ : behind? Charset.markLittle bs = none := behind?_of_isAscii h (by decide)
  have h₃ : behind? Charset.markBig bs = none := behind?_of_isAscii h (by decide)
  rw [detect?, declared?, h₁, h₂, h₃]
  by_cases hx : (behind? (ascii "<?xml") bs).isSome = true
  · simp [hx]
  · simp [hx]

/-- A charset of single bytes reads bytes that are all ASCII as they are. -/
theorem decodeChars_of_isAscii {charset : Charset} (h : IsAscii bs)
    (hc : charset ∉ [Charset.utf16, .utf16le, .utf16be]) :
    charset.decodeChars bs = .ok (bytewise bs) := by
  cases charset with
  | utf8 =>
    have hplain : Charset.withoutMark Charset.markUtf8 bs = bs := by
      rw [Charset.withoutMark, Charset.markUtf8, behind?_of_isAscii h (by decide)]
      rfl
    rw [Charset.decodeChars, hplain, Text.Utf8.decode?_eq_ok, encode_bytewise h]
  | latin1 => rfl
  | ascii => rw [Charset.decodeChars, Charset.findIdx?_eq_none.2 h]
  | utf16 | utf16le | utf16be => simp at hc

/-- A charset of wider units does not read them so: it takes two bytes at least for a character. -/
theorem decodeChars_ne_bytewise {charset : Charset} (hne : bs ≠ [])
    (hc : charset ∈ [Charset.utf16, .utf16le, .utf16be]) :
    charset.decodeChars bs ≠ .ok (bytewise bs) := by
  intro hd
  obtain ⟨f, hf, hw⟩ := Charset.exists_form_of_decodeChars hd
  obtain ⟨e, he, hbs⟩ := Charset.Form.write?_eq_some.1 hw
  have hlen : 2 * (bytewise bs).length ≤ e.length := by
    have hbody : f.body = .utf16le ∨ f.body = .utf16be := by
      simp only [List.mem_cons, List.not_mem_nil, or_false] at hc
      rcases hc with rfl | rfl | rfl
      all_goals
        simp only [Charset.forms, List.mem_cons, List.not_mem_nil, or_false] at hf
        rcases hf with rfl | rfl | rfl
      all_goals simp
    rcases hbody with hb | hb
    all_goals
      rw [hb] at he
      cases he
      exact Charset.two_mul_length_le_encode16 _ _
  have hpos := List.length_pos_iff.2 hne
  have hlen' := congrArg List.length hbs
  rw [bytewise, List.length_map] at hlen
  rw [List.length_append] at hlen'
  omega

end

/-! ## Reading -/

section
variable {bs : Bytes}

/-- The name of the charset that bytes of ASCII are read in. -/
theorem effectiveCharset_of_isAscii (h : IsAscii bs) :
    effectiveCharset { bytes := bs } none = ((declared? bs).filter (!isWide ·)).getD "UTF-8" := by
  rw [effectiveCharset, detect?_of_isAscii h]
  rfl

/-- The charset is UTF-8, or it is declared and not known to be wide. -/
theorem effectiveCharset_cases (h : IsAscii bs) :
    effectiveCharset { bytes := bs } none = "UTF-8"
      ∨ declared? bs = some (effectiveCharset { bytes := bs } none)
        ∧ isWide (effectiveCharset { bytes := bs } none) = false := by
  rw [effectiveCharset_of_isAscii h]
  cases declared? bs with
  | none => exact .inl rfl
  | some name =>
    by_cases hw : isWide name = true
    · exact .inl (by simp [Option.filter, hw])
    · exact .inr (by simp [Option.filter, hw])

theorem ne_nil_of_declared? {name : String} (h : declared? bs = some name) : bs ≠ [] := by
  rintro rfl
  have hnone : declared? [] = none := by decide
  rw [hnone] at h
  cases h

/-- A name that is not known is the error. -/
theorem text_of_ofName?_eq_none {name : String}
    (he : effectiveCharset { bytes := bs } none = name) (h : Charset.ofName? name = none) :
    text { bytes := bs } = .error (.encoding name (.unsupportedCharset name)) := by
  rw [text, he, Charset.decode, h]

/-- A name that is known is the charset to read in. -/
theorem text_of_ofName?_eq_some {name : String} {charset : Charset}
    (he : effectiveCharset { bytes := bs } none = name) (h : Charset.ofName? name = some charset) :
    text { bytes := bs } = match charset.decodeChars bs with
      | .ok cs => .ok (String.ofList cs)
      | .error offset => .error (.encoding name (.malformed charset.name offset)) := by
  rw [text, he, Charset.decode, h]
  dsimp only
  cases charset.decodeChars bs <;> rfl

/-- Bytes that are all ASCII are read as they are, or in a charset that is not known, except exactly
where they declare UTF-16 with a low line in its name. -/
theorem text_of_ascii_iff (h : IsAscii bs) :
    (text { bytes := bs } = .ok (String.ofList (bytewise bs))
      ∨ ∃ name, text { bytes := bs } = .error (.encoding name (.unsupportedCharset name)))
    ↔ ∀ name, declared? bs = some name → ¬ IsLowLined name := by
  constructor
  · intro hread name hd hlow
    obtain ⟨charset, hc, hn⟩ := hlow.exists_charset
    have he : effectiveCharset { bytes := bs } none = name := by
      rw [effectiveCharset_of_isAscii h, hd]
      simp [Option.filter, hlow.not_isWide]
    rw [text_of_ofName?_eq_some he hn] at hread
    cases hcs : charset.decodeChars bs with
    | error offset => simp [hcs] at hread
    | ok cs =>
      rw [hcs] at hread
      rcases hread with hread | ⟨name, hread⟩
      · refine decodeChars_ne_bytewise (ne_nil_of_declared? hd) hc ?_
        rw [hcs, ← String.toList_ofList (l := cs), Except.ok.inj hread, String.toList_ofList]
      · cases hread
  · intro hlow
    cases hn : Charset.ofName? (effectiveCharset { bytes := bs } none) with
    | none => exact .inr ⟨_, text_of_ofName?_eq_none rfl hn⟩
    | some charset =>
      -- what is read in a wide charset would have been known for one, or has a low line
      have hc : charset ∉ [Charset.utf16, .utf16le, .utf16be] := by
        intro hc
        rcases effectiveCharset_cases h with he | ⟨hd, hw⟩
        · rw [he] at hn
          cases hn
          simp at hc
        · rcases isWide_or_isLowLined (Charset.ofName?_eq_some.1 hn) hc with hw' | hl
          · rw [hw] at hw'
            cases hw'
          · exact hlow _ hd hl
      rw [text_of_ofName?_eq_some rfl hn, decodeChars_of_isAscii h hc]
      exact .inl rfl

end

/-- The spelling in small letters is believed as well. -/
theorem text_of_ascii_iff_lower : IsAscii (ascii "<?xml encoding=\"utf_16le\"?>")
    ∧ ∀ name, text { bytes := ascii "<?xml encoding=\"utf_16le\"?>" }
      ≠ .error (.encoding name (.unsupportedCharset name)) :=
  have h : IsAscii (ascii "<?xml encoding=\"utf_16le\"?>") := by decide
  ⟨h, fun name hread =>
    (text_of_ascii_iff h).1 (.inr ⟨name, hread⟩) "utf_16le" (by decide +kernel)
      (by rw [IsLowLined]; decide)⟩

/-- Thirteen characters are read from the twenty-six of a declaration with a low line. -/
theorem text_lowLined : IsAscii (ascii "<?xml encoding='UTF_16'?>x")
    ∧ text { bytes := ascii "<?xml encoding='UTF_16'?>x" } = .ok "㰿硭氠敮捯摩湧㴧啔䙟ㄶ✿㹸" := by
  refine ⟨by decide, ?_⟩
  decide +kernel

end Rehearsal.Resource

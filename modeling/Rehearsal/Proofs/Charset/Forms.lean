import Mathlib.Data.List.Forall2
import Rehearsal.Proofs.Charset.Utf16
import Rehearsal.Resource.Basic

/-!
# Texts in their charsets

A charset has several names, and several forms of writing a text: a byte order mark or none, and the
encoding of the text behind it. A text that begins with the very character of a mark is not told
from one with the mark in front. Main statement: what is read in a charset is exactly what is
written in one of its forms, and where no charset is given the mark tells it (`decode_written`).
-/

namespace Rehearsal.Charset

open Text (isValid_toNat toNat_ofNat)

/-! ## Names -/

/-- The names of a charset; the first one is that of its errors. -/
def names : Charset → List String
  | .utf8 => ["UTF-8", "UTF8"]
  | .utf16 => ["UTF-16", "UTF16"]
  | .utf16le => ["UTF-16LE"]
  | .utf16be => ["UTF-16BE"]
  | .latin1 => ["ISO-8859-1", "ISO8859-1", "LATIN1", "LATIN-1"]
  | .ascii => ["US-ASCII", "ASCII"]

/-- The text is the name, but for the case of letters and for low lines in the place of hyphens. -/
def Spells (name s : String) : Prop :=
  List.Forall₂ (fun n c => c.toUpper = n ∨ n = '-' ∧ c = '_') name.toList s.toList

/-- The text spells one of the charset's names. -/
def IsNamed (charset : Charset) (s : String) : Prop := ∃ name ∈ charset.names, Spells name s

/-- No letter has the low line as its capital. -/
theorem toUpper_eq_lowLine {c : Char} : c.toUpper = '_' ↔ c = '_' := by
  constructor
  · intro h
    unfold Char.toUpper at h
    split at h
    · next hc =>
      -- the letter would stand past the last one
      have hn := congrArg (fun c => c.val.toNat) h
      have h₁ := UInt32.le_iff_toNat_le.1 hc.1
      have h₂ := UInt32.le_iff_toNat_le.1 hc.2
      simp at hn h₁ h₂
      omega
    · exact h
  · rintro rfl
    decide

/-- Names are compared in upper case and with hyphens. -/
theorem spells_iff {name s : String} (h : '_' ∉ name.toList) : Spells name s
    ↔ String.ofList ((Text.asciiUpper s).toList.map fun c => if c = '_' then '-' else c)
      = name := by
  -- letter by letter; a name without low lines leaves open only where one stands for a hyphen
  have hlists (ns cs : List Char) (h : '_' ∉ ns) :
      List.Forall₂ (fun n c => c.toUpper = n ∨ n = '-' ∧ c = '_') ns cs
        ↔ cs.map (fun c => if c.toUpper = '_' then '-' else c.toUpper) = ns := by
    induction ns generalizing cs with
    | nil => cases cs <;> simp
    | cons n ns ih =>
      simp only [List.mem_cons, not_or] at h
      cases cs with
      | nil => simp
      | cons c cs =>
        rw [List.forall₂_cons, ih cs h.2, List.map_cons, List.cons.injEq]
        refine and_congr_left fun _ => ?_
        by_cases hc : c = '_'
        · subst hc
          simp [h.1, eq_comm]
        · simp [hc, toUpper_eq_lowLine]
  rw [Spells, hlists _ _ h, Text.asciiUpper, String.toList_ofList, List.map_map,
    ← String.ofList_inj, String.ofList_toList]
  rfl

/-- The names that are understood are those of the charset, however they are spelled. -/
theorem ofName?_eq_some {charset : Charset} {s : String} :
    ofName? s = some charset ↔ charset.IsNamed s := by
  constructor
  · intro h
    unfold ofName? at h
    split at h
    all_goals cases h
    all_goals
      next hs => exact ⟨_, by simp [names], (spells_iff (by decide)).2 hs⟩
  · rintro ⟨name, hn, hs⟩
    have hplain : '_' ∉ name.toList := by
      revert name
      cases charset <;> simp [names]
    rw [ofName?, (spells_iff hplain).1 hs]
    revert name
    cases charset <;> simp [names]

/-! ## Marks -/

section
variable {mark bs r : Bytes}

/-- There is something behind a mark exactly if the mark is in front. -/
theorem behind?_eq_some : behind? mark bs = some r ↔ bs = mark ++ r := by
  induction mark generalizing bs with
  | nil => simp [behind?, eq_comm]
  | cons m ms ih =>
    cases bs with
    | nil => simp [behind?]
    | cons b bs =>
      by_cases h : m = b
      · simp [behind?, h, ih]
      · simp [behind?, h, Ne.symm h]

theorem behind?_append (mark r : Bytes) : behind? mark (mark ++ r) = some r :=
  behind?_eq_some.2 rfl

theorem withoutMark_append (mark r : Bytes) : withoutMark mark (mark ++ r) = r := by
  rw [withoutMark, behind?_append]
  rfl

/-- Nothing is taken away where the mark is not in front. -/
theorem withoutMark_eq_self (h : ∀ r, bs ≠ mark ++ r) : withoutMark mark bs = bs := by
  cases hb : behind? mark bs with
  | none => rw [withoutMark, hb]; rfl
  | some r => exact absurd (behind?_eq_some.1 hb) (h r)

/-- Bytes are what is behind the mark, with the mark or without it. -/
theorem withoutMark_cases (mark bs : Bytes) :
    bs = withoutMark mark bs ∨ bs = mark ++ withoutMark mark bs := by
  rw [withoutMark]
  cases h : behind? mark bs with
  | none => exact .inl rfl
  | some r => exact .inr (behind?_eq_some.1 h)

end

/-! ## Forms -/

/-- A form of writing texts: the mark in front, and the charset behind it. -/
structure Form where
  mark : Bytes
  body : Charset

/-- The bytes of a text in this form, if the charset has all its characters. -/
def Form.write? (f : Form) (cs : List Char) : Option Bytes := (f.body.encode? cs).map (f.mark ++ ·)

/-- The forms of writing texts that are read in a charset. -/
def forms : Charset → List Form
  | .utf8 => [⟨[], .utf8⟩, ⟨markUtf8, .utf8⟩]
  | .utf16 => [⟨[], .utf16be⟩, ⟨markBig, .utf16be⟩, ⟨markLittle, .utf16le⟩]
  | .utf16le => [⟨[], .utf16le⟩, ⟨markLittle, .utf16le⟩]
  | .utf16be => [⟨[], .utf16be⟩, ⟨markBig, .utf16be⟩]
  | .latin1 => [⟨[], .latin1⟩]
  | .ascii => [⟨[], .ascii⟩]

/-- The characters of a charset are those before this code point. -/
def limit : Charset → Nat
  | .latin1 => 0x100
  | .ascii => 0x80
  | _ => 0x110000

/-- The characters whose encoding at the start of a text is taken for a mark. -/
def falseMarks : Charset → List Char
  | .utf8 | .utf16le | .utf16be => ['\uFEFF']
  | .utf16 => ['\uFEFF', '\uFFFE']
  | .latin1 | .ascii => []

section
variable {charset : Charset} {f : Form} {cs : List Char} {bs r : Bytes}

/-- What is written is the mark and then the encoded text. -/
theorem Form.write?_eq_some :
    f.write? cs = some bs ↔ ∃ e, f.body.encode? cs = some e ∧ bs = f.mark ++ e := by
  simp only [Form.write?, Option.map_eq_some_iff, eq_comm (a := bs)]

/-- A text can be written if the charset has all its characters. -/
theorem exists_write? (hf : f ∈ charset.forms) (h : ∀ c ∈ cs, c.toNat < charset.limit) :
    ∃ bs, f.write? cs = some bs := by
  cases charset
  all_goals
    simp only [forms, List.mem_cons, List.not_mem_nil, or_false] at hf
    rcases hf with rfl | rfl | rfl
    all_goals simp_all [Form.write?, encode?, limit]

/-! ### Texts that begin like a mark -/

/-- In UTF-8 only the mark's own character begins like the mark. -/
theorem head?_of_encode_eq_mark (h : Text.Utf8.encode cs = markUtf8 ++ r) :
    '\uFEFF' ∈ cs.head? := by
  have hmark : Text.Utf8.readChar (markUtf8 ++ r) = .ok ('\uFEFF', r) :=
    Text.Utf8.readChar_encode '\uFEFF' r
  cases cs with
  | nil => cases h
  | cons c cs =>
    rw [← h, Text.Utf8.encode_cons, Text.Utf8.readChar_encode] at hmark
    cases hmark
    rfl

/-- The first two bytes of UTF-16 are those of the first character, or half of it. -/
theorem head?_of_encode16_eq_cons {little : Bool} {u : Nat} (hu : u < 0xD800 ∨ 0xE000 ≤ u)
    (hlt : u < 0x10000) (h : encode16 little cs = unitBytes little u ++ r) :
    Char.ofNat u ∈ cs.head? := by
  have hunits : cs.flatMap unitsOf = u :: units little r := by
    rw [← units_flatMap_unitBytes (unitsOf_flatMap_lt cs), ← units_unitBytes_append hlt, ← h]
    rfl
  cases cs with
  | nil => cases hunits
  | cons c cs =>
    rw [List.flatMap_cons] at hunits
    rcases Nat.lt_or_ge c.toNat 0x10000 with hc | hc
    · rw [unitsOf_single hc] at hunits
      simp only [List.singleton_append, List.cons.injEq] at hunits
      rw [← hunits.1, Char.ofNat_toNat]
      rfl
    · -- a pair begins with a high surrogate, and the unit is none
      rw [unitsOf, if_neg (by omega)] at hunits
      have hcv := isValid_toNat c
      simp only [List.cons_append, List.cons.injEq] at hunits
      omega

/-! ### Reading and writing -/

/-- A text with another first character does not begin like the mark. -/
theorem encode16_ne_mark {little : Bool} {u : Nat} (hu : u < 0xD800 ∨ 0xE000 ≤ u)
    (hlt : u < 0x10000) (h : ∀ c ∈ cs.head?, c ≠ Char.ofNat u) :
    ∀ r, encode16 little cs ≠ unitBytes little u ++ r :=
  fun _ he => h _ (head?_of_encode16_eq_cons hu hlt he) rfl

/-- Texts of characters that fit into a byte are read from one byte for each. -/
theorem bytewise_ofNat (h : ∀ c ∈ cs, c.toNat < 256) :
    bytewise (cs.map fun c => UInt8.ofNat c.toNat) = cs := by
  rw [bytewise, List.map_map]
  refine (List.map_congr_left fun c hc => ?_).trans (List.map_id cs)
  show Char.ofNat (UInt8.ofNat c.toNat).toNat = c
  rw [UInt8.toNat_ofNat_of_lt' (h c hc), Char.ofNat_toNat]

theorem toNat_ofNat_byte (b : UInt8) : (Char.ofNat b.toNat).toNat = b.toNat :=
  toNat_ofNat (.inl (Nat.lt_trans b.toNat_lt (by decide)))

/-- Bytes are written as they were read one by one. -/
theorem map_ofNat_bytewise (bs : Bytes) :
    (bytewise bs).map (fun c => UInt8.ofNat c.toNat) = bs := by
  rw [bytewise, List.map_map]
  refine (List.map_congr_left fun b _ => ?_).trans (List.map_id bs)
  show UInt8.ofNat (Char.ofNat b.toNat).toNat = b
  rw [toNat_ofNat_byte, UInt8.ofNat_toNat]

theorem decode16_withoutMark {little : Bool} {mark : Bytes}
    (h : ∀ r, encode16 little cs ≠ mark ++ r) :
    decode16 little (withoutMark mark (encode16 little cs)) = .ok cs := by
  rw [withoutMark_eq_self h, decode16_encode16]

theorem decode16_withoutMark_append (little : Bool) (mark : Bytes) (cs : List Char) :
    decode16 little (withoutMark mark (mark ++ encode16 little cs)) = .ok cs := by
  rw [withoutMark_append, decode16_encode16]

/-- No byte is found to be beyond ASCII if there is none. -/
theorem findIdx?_eq_none : bs.findIdx? (fun b => 0x80 ≤ b) = none ↔ ∀ b ∈ bs, b < 0x80 := by
  simp [List.findIdx?_eq_none_iff]

/-- What is written in one of the forms is read back, unless it begins like a mark by itself. -/
theorem decodeChars_of_write? (hf : f ∈ charset.forms) (hw : f.write? cs = some bs)
    (hm : f.mark = [] → ∀ c ∈ cs.head?, c ∉ charset.falseMarks) :
    charset.decodeChars bs = .ok cs := by
  obtain ⟨e, he, rfl⟩ := Form.write?_eq_some.1 hw
  cases charset with
  | utf8 =>
    simp only [forms, List.mem_cons, List.not_mem_nil, or_false] at hf
    rcases hf with rfl | rfl <;> cases he
    · have hplain : ∀ r, Text.Utf8.encode cs ≠ markUtf8 ++ r := fun r h =>
        hm rfl _ (head?_of_encode_eq_mark h) (by decide)
      rw [List.nil_append, decodeChars, withoutMark_eq_self hplain, Text.Utf8.decode?_eq_ok]
    · rw [decodeChars, withoutMark_append, Text.Utf8.decode?_eq_ok]
  | utf16 =>
    simp only [forms, List.mem_cons, List.not_mem_nil, or_false] at hf
    rcases hf with rfl | rfl | rfl <;> cases he
    · have hbig : ∀ r, encode16 false cs ≠ markBig ++ r :=
        encode16_ne_mark (u := 0xFEFF) (by decide) (by decide) fun c hc h =>
          hm rfl c hc (by rw [h]; decide)
      -- the mark of the other order is looked for first: in this order it would be U+FFFE
      have hlittle : ∀ r, encode16 false cs ≠ markLittle ++ r :=
        encode16_ne_mark (u := 0xFFFE) (by decide) (by decide) fun c hc h =>
          hm rfl c hc (by rw [h]; decide)
      have hnone : behind? markLittle (encode16 false cs) = none :=
        Option.eq_none_iff_forall_ne_some.2 fun r hr => hlittle r (behind?_eq_some.1 hr)
      rw [List.nil_append, decodeChars, hnone]
      exact decode16_withoutMark hbig
    · exact decode16_withoutMark_append false markBig cs
    · rw [decodeChars, behind?_append]
      exact decode16_encode16 true cs
  | utf16le =>
    simp only [forms, List.mem_cons, List.not_mem_nil, or_false] at hf
    rcases hf with rfl | rfl <;> cases he
    · exact decode16_withoutMark (encode16_ne_mark (u := 0xFEFF) (by decide) (by decide)
        fun c hc h => hm rfl c hc (by rw [h]; decide))
    · exact decode16_withoutMark_append true markLittle cs
  | utf16be =>
    simp only [forms, List.mem_cons, List.not_mem_nil, or_false] at hf
    rcases hf with rfl | rfl <;> cases he
    · exact decode16_withoutMark (encode16_ne_mark (u := 0xFEFF) (by decide) (by decide)
        fun c hc h => hm rfl c hc (by rw [h]; decide))
    · exact decode16_withoutMark_append false markBig cs
  | latin1 =>
    obtain rfl : f = ⟨[], .latin1⟩ := by simpa [forms] using hf
    simp only [encode?, Option.ite_none_right_eq_some, List.all_eq_true, decide_eq_true_eq] at he
    obtain ⟨h, ⟨⟩⟩ := he
    exact congrArg Except.ok (bytewise_ofNat h)
  | ascii =>
    obtain rfl : f = ⟨[], .ascii⟩ := by simpa [forms] using hf
    simp only [encode?, Option.ite_none_right_eq_some, List.all_eq_true, decide_eq_true_eq] at he
    obtain ⟨h, ⟨⟩⟩ := he
    have hlt : ∀ c ∈ cs, c.toNat < 256 := fun c hc => Nat.lt_trans (h c hc) (by decide)
    have hascii : ∀ b ∈ cs.map fun c => UInt8.ofNat c.toNat, b < 0x80 := by
      intro b hb
      obtain ⟨c, hc, rfl⟩ := List.mem_map.1 hb
      rw [UInt8.lt_iff_toNat_lt, UInt8.toNat_ofNat_of_lt' (hlt c hc)]
      exact h c hc
    rw [List.nil_append, decodeChars, findIdx?_eq_none.2 hascii]
    exact congrArg Except.ok (bytewise_ofNat hlt)

/-- What is read with the mark taken away was written with it or without it. -/
theorem exists_form_of_withoutMark (mark : Bytes) (body : Charset)
    (hplain : ⟨[], body⟩ ∈ charset.forms) (hmark : ⟨mark, body⟩ ∈ charset.forms)
    (h : body.encode? cs = some (withoutMark mark bs)) :
    ∃ f ∈ charset.forms, f.write? cs = some bs := by
  rcases withoutMark_cases mark bs with hb | hb
  · exact ⟨_, hplain, Form.write?_eq_some.2 ⟨_, h, hb⟩⟩
  · exact ⟨_, hmark, Form.write?_eq_some.2 ⟨_, h, hb⟩⟩

/-- What is read in a charset has been written in one of its forms. -/
theorem exists_form_of_decodeChars (h : charset.decodeChars bs = .ok cs) :
    ∃ f ∈ charset.forms, f.write? cs = some bs := by
  have hcode {little : Bool} {body : Charset} {e : Bytes}
      (hbody : body.encode? cs = some (encode16 little cs)) (he : decode16 little e = .ok cs) :
      body.encode? cs = some e := by
    rw [hbody, decode16_eq_ok.1 he]
  cases charset with
  | utf8 =>
    refine exists_form_of_withoutMark markUtf8 .utf8 (by simp [forms])
      (by simp [forms]) ?_
    exact congrArg some (Text.Utf8.decode?_eq_ok.1 h).symm
  | utf16 =>
    unfold decodeChars at h
    dsimp only at h
    split at h
    · next r hr =>
      exact ⟨⟨markLittle, .utf16le⟩, by simp [forms],
        Form.write?_eq_some.2 ⟨r, hcode rfl h, behind?_eq_some.1 hr⟩⟩
    · exact exists_form_of_withoutMark markBig .utf16be (by simp [forms])
        (by simp [forms]) (hcode rfl h)
  | utf16le =>
    exact exists_form_of_withoutMark markLittle .utf16le (by simp [forms])
      (by simp [forms]) (hcode rfl h)
  | utf16be =>
    exact exists_form_of_withoutMark markBig .utf16be (by simp [forms])
      (by simp [forms]) (hcode rfl h)
  | latin1 =>
    cases h
    have hall : (bytewise bs).all (·.toNat < 256) := by
      simp only [bytewise, List.all_map, List.all_eq_true, Function.comp_apply, decide_eq_true_eq]
      exact fun b _ => by rw [toNat_ofNat_byte]; exact b.toNat_lt
    exact ⟨⟨[], .latin1⟩, by simp [forms], Form.write?_eq_some.2
      ⟨bs, by rw [encode?, if_pos hall, map_ofNat_bytewise], rfl⟩⟩
  | ascii =>
    unfold decodeChars at h
    dsimp only at h
    split at h
    · cases h
    · next hnone =>
      cases h
      have hall : (bytewise bs).all (·.toNat < 128) := by
        simp only [bytewise, List.all_map, List.all_eq_true, Function.comp_apply,
          decide_eq_true_eq]
        exact fun b hb => by rw [toNat_ofNat_byte]; exact findIdx?_eq_none.1 hnone b hb
      exact ⟨⟨[], .ascii⟩, by simp [forms], Form.write?_eq_some.2
        ⟨bs, by rw [encode?, if_pos hall, map_ofNat_bytewise], rfl⟩⟩

/-! ## Bytes and names -/

/-- Reading by a name is reading in the charset that it names. -/
theorem decode_eq_ok {name s : String} (h : ofName? name = some charset) :
    decode name bs = .ok s ↔ charset.decodeChars bs = .ok s.toList := by
  rw [decode, h]
  dsimp only
  cases charset.decodeChars bs with
  | error offset => simp
  | ok cs =>
    simp only [Except.ok.injEq]
    exact ⟨fun hs => by rw [← hs, String.toList_ofList], fun hs => by rw [hs, String.ofList_toList]⟩

/-- A mark in front tells the charset of the bytes behind it. -/
theorem detect?_of_mark (hf : f ∈ charset.forms) (hm : f.mark ≠ []) (e : Bytes) :
    f ∈ f.body.forms ∧ Resource.detect? (f.mark ++ e) = some f.body.name := by
  have hmarks : f = ⟨markUtf8, .utf8⟩ ∨ f = ⟨markLittle, .utf16le⟩ ∨ f = ⟨markBig, .utf16be⟩ := by
    revert hm
    cases charset
    all_goals
      simp only [forms, List.mem_cons, List.not_mem_nil, or_false] at hf
      rcases hf with rfl | rfl | rfl
    all_goals simp
  rcases hmarks with rfl | rfl | rfl
  all_goals exact ⟨by simp [forms], rfl⟩

/-- The name that errors tell is understood. -/
theorem ofName?_name (charset : Charset) : ofName? charset.name = some charset := by
  cases charset <;> decide

/-- A text behind a mark is read without being told the charset. -/
theorem text_of_mark {s : String} (hf : f ∈ charset.forms) (hm : f.mark ≠ [])
    (hw : f.write? s.toList = some bs) : Resource.text { bytes := bs } = .ok s := by
  obtain ⟨e, -, he⟩ := Form.write?_eq_some.1 hw
  obtain ⟨hbody, hdetect⟩ := detect?_of_mark hf hm e
  rw [← he] at hdetect
  have hread : decode f.body.name bs = .ok s :=
    (decode_eq_ok (ofName?_name f.body)).2 (decodeChars_of_write? hbody hw fun h => absurd h hm)
  have heffective : Resource.effectiveCharset { bytes := bs } none = f.body.name := by
    rw [Resource.effectiveCharset, hdetect]
    rfl
  rw [Resource.text, heffective]
  dsimp only
  rw [hread]

end

/-- Reading in a charset, under any spelling of one of its names, is the inverse of writing in its
forms. Every text of its characters is written in each form and read back from there, unless it
begins with what is taken for a mark; behind a mark it is also read if no charset is given. And
whatever is read is a text that these bytes are written for. -/
theorem decode_written {charset : Charset} {name : String} (h : charset.IsNamed name) :
    (∀ f ∈ charset.forms, ∀ s : String, (∀ c ∈ s.toList, c.toNat < charset.limit) →
      ∃ bs, f.write? s.toList = some bs
        ∧ ((f.mark = [] → ∀ c ∈ s.toList.head?, c ∉ charset.falseMarks) → decode name bs = .ok s)
        ∧ (f.mark ≠ [] → Resource.text { bytes := bs } = .ok s))
    ∧ ∀ bs s, decode name bs = .ok s → ∃ f ∈ charset.forms, f.write? s.toList = some bs := by
  have hname := ofName?_eq_some.2 h
  refine ⟨fun f hf s hs => ?_, fun bs s hd => ?_⟩
  · obtain ⟨bs, hw⟩ := exists_write? hf hs
    exact ⟨bs, hw, fun hm => (decode_eq_ok hname).2 (decodeChars_of_write? hf hw hm),
      fun hm => text_of_mark hf hm hw⟩
  · exact exists_form_of_decodeChars ((decode_eq_ok hname).1 hd)

theorem isNamed_utf_16 : Charset.utf16.IsNamed "utf_16" := ofName?_eq_some.1 (by decide)

/-- Two surrogates behind a mark of UTF-16. -/
theorem decode_written_clef : Charset.utf16.IsNamed "utf_16"
    ∧ decode "utf_16" [0xFF, 0xFE, 0x34, 0xD8, 0x1E, 0xDD] = .ok "𝄞" := by
  have hall : ∀ c ∈ "𝄞".toList, c.toNat < Charset.utf16.limit := by
    intro c hc
    rw [List.mem_singleton.1 (hc : c ∈ ['𝄞'])]
    decide
  obtain ⟨bs, hw, hread, -⟩ := (decode_written isNamed_utf_16).1 ⟨markLittle, .utf16le⟩
    (by simp [forms]) "𝄞" hall
  have hbs : bs = [0xFF, 0xFE, 0x34, 0xD8, 0x1E, 0xDD] :=
    Option.some.inj (hw.symm.trans (by decide))
  exact ⟨isNamed_utf_16, hbs ▸ hread fun h => nomatch h⟩

end Rehearsal.Charset

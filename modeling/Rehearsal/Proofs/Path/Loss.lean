import Rehearsal.Proofs.Path.Legible
import Rehearsal.Proofs.Matcher.Written

/-!
# What reading a path loses

A path never has fewer characters than the segments it is read as, dots aside: blank ends, a leading
`$`, what follows a closing bracket, the brackets around a name and spare digits are lost. A written
position has the characters of its segments and dots between them, so reading it may lose nothing.
Main statement: a position is read from its written form as itself exactly if it is legible
(`parse_write_iff`).
-/

namespace Rehearsal

/-! ## Numbers -/

namespace Text

/-- What is read as a number is made of digits, and the number is below the limit at every digit. -/
theorem readDigits_eq_ok {limit acc n : Nat} {cs : List Char}
    (h : readDigits limit acc cs = .ok n) : (∀ c ∈ cs, c.isDigit = true)
      ∧ n = Nat.ofDigitChars 10 cs acc ∧ (acc < limit → n < limit) := by
  induction cs generalizing acc with
  | nil =>
    cases h
    exact ⟨by simp, by simp, id⟩
  | cons c cs ih =>
    rw [readDigits] at h
    split at h
    · next hc =>
      dsimp only at h
      split at h
      · next hlt =>
        obtain ⟨hd, hn, hl⟩ := ih h
        exact ⟨by simpa using ⟨hc, hd⟩, by rw [Nat.ofDigitChars_cons, hn], fun _ => hl hlt⟩
      · cases h
    · cases h

theorem length_digitsOf_of_lt {n : Nat} (h : n < 10) : (Decimal.digitsOf n).length = 1 := by
  rw [Decimal.digitsOf, Nat.toDigits_of_lt_base h]
  rfl

/-- One more digit makes a number one digit longer, or not at all. -/
theorem length_digitsOf_le {d : Nat} (acc : Nat) (h : d < 10) :
    (Decimal.digitsOf (10 * acc + d)).length ≤ (Decimal.digitsOf acc).length + 1 := by
  rcases Nat.eq_zero_or_pos acc with rfl | hpos
  · rw [Nat.mul_zero, Nat.zero_add, length_digitsOf_of_lt h]
    omega
  · rw [Decimal.digitsOf, ← Nat.toDigits_append_toDigits (by omega) hpos h, List.length_append,
      ← Decimal.digitsOf, ← Decimal.digitsOf, length_digitsOf_of_lt h]

/-- Each digit that is read makes a number one digit longer at most. -/
theorem length_digitsOf_ofDigitChars_le {cs : List Char} (h : ∀ c ∈ cs, c.isDigit = true)
    (acc : Nat) : (Decimal.digitsOf (Nat.ofDigitChars 10 cs acc)).length
      ≤ (Decimal.digitsOf acc).length + cs.length := by
  induction cs generalizing acc with
  | nil => simp
  | cons c cs ih =>
    have hstep := length_digitsOf_le acc (Decimal.digit_lt (h c (by simp)))
    have hrest := ih (fun x hx => h x (by simp [hx])) (10 * acc + (c.toNat - '0'.toNat))
    rw [Nat.ofDigitChars_cons, List.length_cons]
    omega

/-- Digits that are read are at least as many as those of the number. -/
theorem length_digitsOf_of_readDigits {limit n : Nat} {c : Char} {cs : List Char}
    (h : readDigits limit 0 (c :: cs) = .ok n) :
    (Decimal.digitsOf n).length ≤ cs.length + 1 := by
  obtain ⟨hd, rfl, -⟩ := readDigits_eq_ok h
  have hc := Decimal.digit_lt (hd c List.mem_cons_self)
  have hcs : ∀ x ∈ cs, x.isDigit = true := fun x hx => hd x (List.mem_cons_of_mem c hx)
  -- the first digit is a number of one digit
  have hrest := length_digitsOf_ofDigitChars_le hcs (10 * 0 + (c.toNat - '0'.toNat))
  rw [← Nat.ofDigitChars_cons, Nat.mul_zero, Nat.zero_add, length_digitsOf_of_lt hc] at hrest
  omega

/-- A natural number that is read has no more digits than its text. -/
theorem readNatural?_eq_some {n : Nat} {cs : List Char} (h : readNatural? cs = some n) :
    (∀ c ∈ cs, c = '+' ∨ c.isDigit = true) ∧ n < 1 <<< 64
      ∧ (Decimal.digitsOf n).length ≤ cs.length := by
  have hok : readNatural cs = .ok n := by
    cases hr : readNatural cs with
    | error e => simp [readNatural?, hr, Except.toOption] at h
    | ok m => simpa [readNatural?, hr, Except.toOption] using h
  -- a number may have a plus in front, which is no digit of its own
  unfold readNatural at hok
  split at hok
  · cases hok
  · cases hok
  · next ds hne =>
    cases ds with
    | nil => exact absurd rfl hne
    | cons c ds =>
      obtain ⟨hd, -, hlt⟩ := readDigits_eq_ok hok
      have hlen := length_digitsOf_of_readDigits hok
      refine ⟨?_, hlt (by decide), ?_⟩
      · intro x hx
        rcases List.mem_cons.1 hx with rfl | hx
        · exact .inl rfl
        · exact .inr (hd x hx)
      · rw [List.length_cons, List.length_cons]
        omega
  · next ds hnil _ _ =>
    cases cs with
    | nil => exact absurd rfl hnil
    | cons c cs =>
      obtain ⟨hd, -, hlt⟩ := readDigits_eq_ok hok
      exact ⟨fun x hx => .inr (hd x hx), hlt (by decide), length_digitsOf_of_readDigits hok⟩

/-! ## Pieces between marks -/

/-- A mark at which nothing is cut is not there. -/
theorem not_mem_of_cut?_eq_none {c : Char} {cs : List Char} (h : cut? [c] cs = none) : c ∉ cs := by
  intro hc
  obtain ⟨a, b, rfl, ha⟩ := List.eq_append_cons_of_mem hc
  rw [cut?_singleton ha] at h
  cases h

/-- No separator is left in a piece. -/
theorem not_mem_of_mem_splitOn {sep : Char} {cs p : List Char} (h : p ∈ splitOn sep cs) :
    sep ∉ p := by
  induction cs generalizing p with
  | nil => simp_all [splitOn]
  | cons c cs ih =>
    rw [splitOn] at h
    split at h
    · rcases List.mem_cons.1 h with rfl | h
      · simp
      · exact ih h
    · next hc =>
      split at h
      · next hnil => exact absurd hnil (splitOn_ne_nil sep cs)
      · next q qs hq =>
        rcases List.mem_cons.1 h with rfl | h
        · have hq := ih (p := q) (by simp [hq])
          simpa using ⟨Ne.symm hc, hq⟩
        · exact ih (by simp [hq, h])

/-- The first piece goes on up to the first separator. -/
theorem exists_splitOn_append {sep : Char} {p : List Char} (h : sep ∉ p) (rest : List Char) :
    ∃ more ps, splitOn sep (p ++ rest) = (p ++ more) :: ps := by
  induction p with
  | nil =>
    cases hr : splitOn sep rest with
    | nil => exact absurd hr (splitOn_ne_nil sep rest)
    | cons q qs => exact ⟨q, qs, by simpa using hr⟩
  | cons c p ih =>
    simp only [List.mem_cons, not_or] at h
    obtain ⟨more, ps, hp⟩ := ih h.2
    exact ⟨more, ps, by rw [List.cons_append, splitOn, if_neg (Ne.symm h.1), hp, List.cons_append]⟩

end Text

namespace Path

/-- The number of characters that are no dots. -/
def bulk (cs : List Char) : Nat := cs.countP (· ≠ '.')

theorem bulk_append (a b : List Char) : bulk (a ++ b) = bulk a + bulk b := List.countP_append

/-- No more characters count than there are. -/
theorem bulk_le (cs : List Char) : bulk cs ≤ cs.length := List.countP_le_length

/-- The pieces between dots have all characters but the dots. -/
theorem length_flatten_splitOn (cs : List Char) :
    (Text.splitOn '.' cs).flatten.length = bulk cs := by
  induction cs with
  | nil => rfl
  | cons c cs ih =>
    rw [Text.splitOn]
    split
    · next hc => simpa [hc, bulk] using ih
    · next hc =>
      cases hp : Text.splitOn '.' cs with
      | nil => exact absurd hp (Text.splitOn_ne_nil '.' cs)
      | cons p ps => simpa [hp, hc, bulk] using ih

/-- The segments without dots between them. -/
def undotted (ss : List Segment) : List Char := ss.flatMap Segment.text

/-! ## Reading loses characters -/

theorem undotted_cons (s : Segment) (ss : List Segment) :
    undotted (s :: ss) = s.text ++ undotted ss := List.flatMap_cons

theorem undotted_append (ss ts : List Segment) :
    undotted (ss ++ ts) = undotted ss ++ undotted ts := List.flatMap_append

/-- A closed bracket has no fewer characters than its segment: around a name its brackets are lost,
in an index spare digits. -/
theorem length_text_closedSegment_le (inside : List Char) :
    (closedSegment inside).text.length ≤ inside.length + 2 := by
  rw [closedSegment]
  split
  · next i hi =>
    have := (Text.readNatural?_eq_some hi).2.2
    simpa [Segment.text, indexText] using this
  · simp [Segment.text]

/-- A closed bracket that is read without loss holds an index. -/
theorem isLegible_closedSegment {inside : List Char}
    (h : inside.length + 2 ≤ (closedSegment inside).text.length) :
    (closedSegment inside).IsLegible := by
  rw [closedSegment] at h ⊢
  split
  · next i hi => exact (Text.readNatural?_eq_some hi).2.1
  · next hn =>
    rw [hn] at h
    simp only [Segment.text, String.toList_ofList] at h
    omega

/-- Brackets lose what follows each of them up to the next one. -/
theorem length_undotted_bracketSegments_le (cs : List Char) :
    (undotted (bracketSegments cs)).length ≤ cs.length := by
  fun_induction bracketSegments cs with
  | case1 r inside rest h hlt ih =>
    have hs := length_text_closedSegment_le inside
    have hr := Text.length_of_cut? h
    show (undotted (closedSegment inside :: bracketSegments rest)).length ≤ r.length + 1
    rw [undotted_cons, List.length_append]
    rw [List.length_singleton] at hr
    omega
  | case2 r h => simp [undotted, Segment.text]
  | case3 cs h => simp [undotted]

/-- Brackets that are read without loss are indices, and perhaps a last one that is never closed. -/
theorem isLegible_of_mem_bracketSegments {cs : List Char} (hdot : '.' ∉ cs)
    (h : cs.length ≤ (undotted (bracketSegments cs)).length) :
    ∀ s ∈ bracketSegments cs, s.IsLegible := by
  fun_induction bracketSegments cs with
  | case1 r inside rest hcut hlt ih =>
    have hr := Text.length_of_cut? hcut
    have hs := length_text_closedSegment_le inside
    have hrest := length_undotted_bracketSegments_le rest
    replace h : r.length + 1 ≤ (undotted (closedSegment inside :: bracketSegments rest)).length := h
    rw [undotted_cons, List.length_append] at h
    rw [List.length_singleton] at hr
    show ∀ s ∈ closedSegment inside :: bracketSegments rest, s.IsLegible
    intro s hmem
    rcases List.mem_cons.1 hmem with rfl | hmem
    · exact isLegible_closedSegment (by omega)
    · have hdot' : '.' ∉ rest := fun hc => hdot (by simp [Text.cut?_eq_some hcut, hc])
      exact ih hdot' (by omega) s hmem
  -- a bracket that is never closed is a name, up to the end of the part
  | case2 r hcut =>
    have hclosed := Text.not_mem_of_cut?_eq_none hcut
    intro s hmem
    obtain rfl := List.mem_singleton.1 hmem
    show IsLegibleKey (String.ofList ('[' :: r)).toList
    rw [String.toList_ofList]
    exact ⟨by simp, hdot, fun _ => ⟨rfl, by simpa using hclosed⟩⟩
  | case3 cs hne => simp

/-- A part has nothing that is lost when it is read. -/
def IsLossless (part : List Char) : Prop := part.length ≤ (undotted (partSegments part)).length

/-- A part has the characters of its name, and then those of its brackets. -/
theorem undotted_partSegments (part : List Char) : undotted (partSegments part)
    = part.takeWhile (· ≠ '[') ++ undotted (bracketSegments (part.dropWhile (· ≠ '['))) := by
  rw [partSegments, undotted_append]
  congr 1
  split
  · next he =>
    rw [List.isEmpty_iff.1 he]
    rfl
  · simp [undotted, Segment.text]

/-- Reading a part takes brackets away, and adds nothing. -/
theorem length_undotted_partSegments_le (part : List Char) :
    (undotted (partSegments part)).length ≤ part.length := by
  have hb := length_undotted_bracketSegments_le (part.dropWhile (· ≠ '['))
  have hp := congrArg List.length (List.takeWhile_append_dropWhile (p := (· ≠ '[')) (l := part))
  rw [undotted_partSegments, List.length_append]
  rw [List.length_append] at hp
  omega

/-- The segments of a part without loss can be read from a path. -/
theorem isLegible_of_mem_partSegments {part : List Char} (hdot : '.' ∉ part)
    (h : IsLossless part) : ∀ s ∈ partSegments part, s.IsLegible := by
  have hpart := List.takeWhile_append_dropWhile (p := (· ≠ '[')) (l := part)
  have hlen := congrArg List.length hpart
  rw [IsLossless, undotted_partSegments, List.length_append] at h
  rw [List.length_append] at hlen
  rw [← hpart, List.mem_append, not_or] at hdot
  intro s hs
  rw [partSegments, List.mem_append] at hs
  -- a segment is the name in front or comes out of the brackets
  rcases hs with hs | hs
  · split at hs
    · cases hs
    · next hne =>
      obtain rfl := List.mem_singleton.1 hs
      show IsLegibleKey (String.ofList _).toList
      rw [String.toList_ofList]
      refine ⟨fun he => hne (by rw [he]; rfl), hdot.1, fun hb => ?_⟩
      have hne := List.all_eq_true.1 List.all_takeWhile _ hb
      simp at hne
  · exact isLegible_of_mem_bracketSegments hdot.2 (by omega) s hs

/-! ## Bodies -/

/-- Empty parts have no segments. -/
theorem bodySegments_eq (cs : List Char) :
    bodySegments cs = (Text.splitOn '.' cs).flatMap partSegments := by
  rw [bodySegments]
  induction Text.splitOn '.' cs with
  | nil => rfl
  | cons p ps ih =>
    cases p with
    | nil => simpa [partSegments, bracketSegments] using ih
    | cons c p => simpa using ih

/-- A text is read part by part between its dots. -/
theorem undotted_bodySegments (cs : List Char) : undotted (bodySegments cs)
    = (Text.splitOn '.' cs).flatMap fun part => undotted (partSegments part) := by
  rw [bodySegments_eq, undotted, List.flatMap_assoc]
  rfl

/-- Pieces that become no longer one by one become no longer together. -/
theorem length_flatMap_le {f : List Char → List Char} (hf : ∀ p, (f p).length ≤ p.length)
    (ps : List (List Char)) : (ps.flatMap f).length ≤ ps.flatten.length := by
  induction ps with
  | nil => simp
  | cons p ps ih =>
    have := hf p
    rw [List.flatMap_cons, List.flatten_cons, List.length_append, List.length_append]
    omega

/-- Where the pieces lose nothing together each of them loses nothing. -/
theorem length_le_of_mem {f : List Char → List Char} (hf : ∀ p, (f p).length ≤ p.length)
    {ps : List (List Char)} (h : ps.flatten.length ≤ (ps.flatMap f).length) :
    ∀ p ∈ ps, p.length ≤ (f p).length := by
  induction ps with
  | nil => simp
  | cons p ps ih =>
    have hp := hf p
    have hps := length_flatMap_le hf ps
    rw [List.flatMap_cons, List.flatten_cons, List.length_append, List.length_append] at h
    intro q hq
    rcases List.mem_cons.1 hq with rfl | hq
    · omega
    · exact ih (by omega) q hq

/-- A body loses what its parts lose. -/
theorem length_undotted_bodySegments_le (cs : List Char) :
    (undotted (bodySegments cs)).length ≤ bulk cs := by
  rw [undotted_bodySegments, ← length_flatten_splitOn]
  exact length_flatMap_le length_undotted_partSegments_le _

/-- If nothing is lost of the whole text, nothing is lost of any part. -/
theorem isLossless_of_mem_splitOn {cs : List Char}
    (h : bulk cs ≤ (undotted (bodySegments cs)).length) :
    ∀ part ∈ Text.splitOn '.' cs, IsLossless part := by
  rw [undotted_bodySegments, ← length_flatten_splitOn] at h
  exact length_le_of_mem length_undotted_partSegments_le h

/-- What is read without loss is legible. -/
theorem isLegible_of_mem_bodySegments {cs : List Char}
    (h : ∀ part ∈ Text.splitOn '.' cs, IsLossless part) :
    ∀ s ∈ bodySegments cs, s.IsLegible := by
  intro s hs
  rw [bodySegments_eq, List.mem_flatMap] at hs
  obtain ⟨part, hpart, hs⟩ := hs
  exact isLegible_of_mem_partSegments (Text.not_mem_of_mem_splitOn hpart) (h part hpart) s hs

/-! ## The frame of a path -/

theorem bulk_eq_length {cs : List Char} (h : '.' ∉ cs) : bulk cs = cs.length := by
  rw [bulk, List.countP_eq_length]
  intro c hc
  rw [decide_eq_true_eq]
  rintro rfl
  exact h hc

/-- Blanks at the ends count, as none of them is a dot. -/
theorem bulk_trim_le (cs : List Char) :
    bulk (Text.trim cs) ≤ bulk cs ∧ (bulk cs ≤ bulk (Text.trim cs) → Text.trim cs = cs) := by
  obtain ⟨left, right, hcs, hl, hr⟩ := Text.exists_trim cs
  have hdot : Text.isBlank '.' = false := by decide
  have hleft : bulk left = left.length :=
    bulk_eq_length fun h => by rw [hl '.' h] at hdot; cases hdot
  have hright : bulk right = right.length :=
    bulk_eq_length fun h => by rw [hr '.' h] at hdot; cases hdot
  have hsum : bulk cs = left.length + bulk (Text.trim cs) + right.length := by
    conv_lhs => rw [hcs]
    rw [bulk_append, bulk_append, hleft, hright]
  -- if nothing is lost there was no blank at either end
  refine ⟨by omega, fun hle => ?_⟩
  obtain rfl : left = [] := List.length_eq_zero_iff.1 (by omega)
  obtain rfl : right = [] := List.length_eq_zero_iff.1 (by omega)
  simpa using hcs.symm

/-- What is left out at the ends of a path counts. -/
theorem bulk_body_le (cs : List Char) :
    bulk (body cs) ≤ bulk cs ∧ (bulk cs ≤ bulk (body cs) → body cs = cs) := by
  obtain ⟨hle, heq⟩ := bulk_trim_le cs
  rw [body]
  split
  · next r hr =>
    have : bulk ('$' :: '.' :: r) = bulk r + 1 := by simp [bulk]
    rw [hr] at hle
    exact ⟨by omega, fun h => by omega⟩
  · next r _ hr =>
    have : bulk ('$' :: r) = bulk r + 1 := by simp [bulk]
    rw [hr] at hle
    exact ⟨by omega, fun h => by omega⟩
  · exact ⟨hle, heq⟩

/-! ## Written positions -/

/-- A written position has the characters of its segments, and dots besides. -/
theorem bulk_writeBehind (path : List Char) (ss : List Segment) :
    bulk (writeBehind path ss) = bulk path + bulk (undotted ss) := by
  induction ss generalizing path with
  | nil => simp [writeBehind, undotted, bulk]
  | cons s ss ih =>
    rw [undotted_cons, bulk_append]
    cases s with
    | field k =>
      have hk : bulk (fieldText path k.toList) = bulk path + bulk k.toList := by
        cases path with
        | nil => simp [fieldText, bulk]
        | cons c path =>
          rw [fieldText, if_neg (by simp), bulk_append]
          simp [bulk]
      rw [writeBehind, ih, hk, Segment.text, Nat.add_assoc]
    | index i => rw [writeBehind, ih, itemText_eq, bulk_append, Segment.text, Nat.add_assoc]

/-- An index behind a bracket that is left open closes it, and the brackets are lost. -/
theorem not_isLossless_unclosed {r : List Char} (h : ']' ∉ r) (i : Nat) (rest : List Char) :
    ¬ IsLossless ('[' :: r ++ indexText i ++ rest) := by
  intro hl
  have hcut : Text.cut? [']'] (r ++ '[' :: Decimal.digitsOf i ++ ']' :: rest)
      = some (r ++ '[' :: Decimal.digitsOf i, rest) := by
    apply Text.cut?_singleton
    simp [h, not_mem_digitsOf]
  have hnone : Text.readNatural? (r ++ '[' :: Decimal.digitsOf i) = none := by
    rw [Option.eq_none_iff_forall_ne_some]
    intro n hn
    have := (Text.readNatural?_eq_some hn).1 '[' (by simp)
    revert this
    decide
  have hpart : '[' :: r ++ indexText i ++ rest
      = '[' :: (r ++ '[' :: Decimal.digitsOf i ++ ']' :: rest) := by
    simp [indexText]
  have hrest := length_undotted_bracketSegments_le rest
  rw [hpart, IsLossless, partSegments_bracket, bracketSegments_of_cut? hcut, undotted_cons,
    closedSegment, hnone] at hl
  simp only [Segment.text, String.toList_ofList, List.length_append, List.length_cons] at hl
  omega

/-- A key before an index has no bracket. -/
theorem not_mem_of_isLossless {path : List Char} {k : String} {i : Nat} {rest : List Char}
    (hk : IsLegibleKey k.toList) (h : ∀ part ∈
      Text.splitOn '.' (fieldText path k.toList ++ indexText i ++ rest), IsLossless part) :
    '[' ∉ k.toList := by
  intro hmem
  obtain ⟨hhead, hclosed⟩ := hk.unclosed hmem
  obtain ⟨r, hr⟩ := List.head?_eq_some_iff.1 hhead
  have hdot : '.' ∉ k.toList ++ indexText i := by
    simp [hk.noDot, indexText, not_mem_digitsOf]
  obtain ⟨more, ps, hps⟩ := Text.exists_splitOn_append hdot rest
  -- the key and the index stand in one part
  have hpart : k.toList ++ indexText i ++ more
      ∈ Text.splitOn '.' (fieldText path k.toList ++ indexText i ++ rest) := by
    cases path with
    | nil =>
      show _ ∈ Text.splitOn '.' (k.toList ++ indexText i ++ rest)
      rw [hps]
      exact List.mem_cons_self
    | cons c path =>
      have he : fieldText (c :: path) k.toList ++ indexText i ++ rest
          = (c :: path) ++ '.' :: (k.toList ++ indexText i ++ rest) := by simp [fieldText]
      rw [he, Text.splitOn_append, hps]
      simp
  have hlost := h _ hpart
  rw [hr] at hlost
  refine not_isLossless_unclosed ?_ i more hlost
  rw [hr] at hclosed
  exact fun hc => hclosed (List.mem_cons_of_mem _ hc)

/-- Where no part loses anything, no segment runs into the next one. -/
theorem isChain_of_isLossless {path : List Char} {ss : List Segment}
    (hs : ∀ s ∈ ss, s.IsLegible)
    (h : ∀ part ∈ Text.splitOn '.' (writeBehind path ss), IsLossless part) :
    ss.IsChain Segment.Admits := by
  induction ss generalizing path with
  | nil => exact .nil
  | cons s ss ih =>
    have hrest : ss.IsChain Segment.Admits := by
      rw [← List.singleton_append, writeBehind_append] at h
      exact ih (fun x hx => hs x (by simp [hx])) h
    cases ss with
    | nil => exact .singleton s
    | cons t ss =>
      refine .cons_cons ?_ hrest
      cases s with
      | index j => trivial
      | field k =>
        cases t with
        | field l => trivial
        | index i =>
          obtain ⟨rest, hw⟩ := exists_writeBehind (fieldText path k.toList ++ indexText i) ss
          rw [writeBehind, writeBehind, itemText_eq, hw] at h
          exact not_mem_of_isLossless (hs (.field k) (by simp)) h

/-! ## Reading back -/

/-- A position is read from its written form as itself exactly if it is legible. -/
theorem parse_write_iff {ss : List Segment} : parse (write ss) = ss ↔ IsLegible ss := by
  refine ⟨fun h => ?_, parse_write_of_isLegible⟩
  have hread : bodySegments (body (writeBehind [] ss)) = ss := by
    rw [parse, write, String.toList_ofList] at h
    exact h
  have hlen := length_undotted_bodySegments_le (body (writeBehind [] ss))
  rw [hread] at hlen
  obtain ⟨-, hframe⟩ := bulk_body_le (writeBehind [] ss)
  -- no more characters are written than the segments have, so none may be lost
  have hwritten : bulk (writeBehind [] ss) ≤ (undotted ss).length := by
    have := bulk_le (undotted ss)
    rw [bulk_writeBehind]
    simpa [bulk] using this
  have hbody : body (writeBehind [] ss) = writeBehind [] ss := hframe (by omega)
  rw [hbody] at hread
  have hlossless : ∀ part ∈ Text.splitOn '.' (writeBehind [] ss), IsLossless part :=
    isLossless_of_mem_splitOn (by rwa [hread])
  have heach := isLegible_of_mem_bodySegments hlossless
  rw [hread] at heach
  obtain ⟨hahead, hbehind⟩ :=
    (body_writeBehind_iff fun s hs => Segment.text_ne_nil (heach s hs)).1 hbody
  exact ⟨heach, isChain_of_isLossless heach hlossless, hahead, hbehind⟩

end Path
end Rehearsal

import Rehearsal.Path
import Rehearsal.Proofs.Double.Digits

/-!
# Written paths

The body of a written path is made of parts with dots between them; a part is the name of a field,
or nothing, and then indices in brackets. Main statements: a readable part is read as its segments
(`bodySegments_write`), a dot parts a body in two (`bodySegments_dot`), and a text with no blanks at
its ends that does not begin with a `$` is its own body (`body_eq_self`).
-/

namespace Rehearsal

/-! ## Numbers -/

namespace Text

/-- More digits never make a number smaller. -/
theorem le_ofDigitChars (cs : List Char) (acc : Nat) : acc ≤ Nat.ofDigitChars 10 cs acc := by
  induction cs generalizing acc with
  | nil => simp
  | cons c cs ih =>
    rw [Nat.ofDigitChars_cons]
    exact Nat.le_trans (by omega) (ih _)

theorem readDigits_of_lt {limit acc : Nat} {cs : List Char} (hd : ∀ c ∈ cs, c.isDigit = true)
    (h : Nat.ofDigitChars 10 cs acc < limit) :
    readDigits limit acc cs = .ok (Nat.ofDigitChars 10 cs acc) := by
  induction cs generalizing acc with
  | nil => simp [readDigits]
  | cons c cs ih =>
    rw [Nat.ofDigitChars_cons] at h ⊢
    have hlt : 10 * acc + (c.toNat - '0'.toNat) < limit :=
      Nat.lt_of_le_of_lt (le_ofDigitChars cs _) h
    rw [readDigits, if_pos (hd c (by simp)), if_pos hlt]
    exact ih (fun x hx => hd x (by simp [hx])) h

/-- A number of 64 bits is read back from its digits. -/
theorem readNatural?_digitsOf {n : Nat} (h : n < 1 <<< 64) :
    readNatural? (Decimal.digitsOf n) = some n := by
  have hd : ∀ c ∈ Decimal.digitsOf n, c.isDigit = true := Decimal.isDigit_of_mem_digitsOf
  have hv : Nat.ofDigitChars 10 (Decimal.digitsOf n) 0 = n := Nat.ofDigitChars_ten_toDigits
  have hr : readDigits (1 <<< 64) 0 (Decimal.digitsOf n) = .ok n := by
    rw [readDigits_of_lt hd (by rw [hv]; exact h), hv]
  cases hcs : Decimal.digitsOf n with
  | nil => exact absurd hcs Nat.toDigits_ne_nil
  | cons c cs =>
    rw [hcs] at hd hr
    have hplus : c ≠ '+' := by
      rintro rfl
      exact absurd (hd '+' (by simp)) (by decide)
    rw [readNatural?, readNatural.eq_4 _ (by simp) (by simp [hplus]) (by simp [hplus]), hr]
    rfl

/-! ## Dots -/

theorem splitOn_ne_nil (sep : Char) (cs : List Char) : splitOn sep cs ≠ [] := by
  induction cs with
  | nil => simp [splitOn]
  | cons c cs ih =>
    rw [splitOn]
    split
    · simp
    · split <;> simp

theorem splitOn_of_not_mem {sep : Char} {cs : List Char} (h : sep ∉ cs) :
    splitOn sep cs = [cs] := by
  induction cs with
  | nil => rfl
  | cons c cs ih =>
    simp only [List.mem_cons, not_or] at h
    rw [splitOn, if_neg (Ne.symm h.1), ih h.2]

/-- The pieces around a separator are those on both its sides. -/
theorem splitOn_append (sep : Char) (a b : List Char) :
    splitOn sep (a ++ sep :: b) = splitOn sep a ++ splitOn sep b := by
  induction a with
  | nil => simp [splitOn]
  | cons c a ih =>
    rw [List.cons_append, splitOn, splitOn, ih]
    split
    · rfl
    · cases ha : splitOn sep a with
      | nil => exact absurd ha (splitOn_ne_nil sep a)
      | cons p ps => rfl

end Text

namespace Path

/-! ## Parts -/

/-- The written form of an index. -/
def indexText (i : Nat) : List Char := '[' :: Decimal.digitsOf i ++ [']']

/-- A name, or nothing, and indices behind it. -/
structure Part where
  name : List Char
  indices : List Nat

namespace Part

def write (p : Part) : List Char := p.name ++ p.indices.flatMap indexText

def segments (p : Part) : List Segment :=
  (if p.name.isEmpty then [] else [.field (String.ofList p.name)]) ++ p.indices.map .index

/-- The name has none of the marks of a path, and the indices have 64 bits. -/
structure IsReadable (p : Part) : Prop where
  noDot : '.' ∉ p.name
  noBracket : '[' ∉ p.name
  fits : ∀ i ∈ p.indices, i < 1 <<< 64

end Part

theorem not_mem_digitsOf {c : Char} (hc : c.isDigit = false) (n : Nat) :
    c ∉ Decimal.digitsOf n := by
  intro h
  rw [Decimal.isDigit_of_mem_digitsOf c h] at hc
  cases hc

theorem cut?_digitsOf (n : Nat) (rest : List Char) :
    Text.cut? [']'] (Decimal.digitsOf n ++ ']' :: rest) = some (Decimal.digitsOf n, rest) :=
  Text.cut?_singleton (not_mem_digitsOf (by decide) n) rest

/-- The segment that a closed bracket is read as. -/
def closedSegment (inside : List Char) : Segment :=
  match Text.readNatural? inside with
  | some i => .index i
  | none => .field (String.ofList inside)

theorem bracketSegments_of_cut? {r inside rest : List Char}
    (h : Text.cut? [']'] r = some (inside, rest)) :
    bracketSegments ('[' :: r) = closedSegment inside :: bracketSegments rest := by
  rw [bracketSegments]
  split
  · next h' =>
    rw [h] at h'
    cases h'
    rfl
  · next h' => rw [h] at h'; cases h'

theorem bracketSegments_of_unclosed {r : List Char} (h : ']' ∉ r) :
    bracketSegments ('[' :: r) = [.field (String.ofList ('[' :: r))] := by
  rw [bracketSegments]
  split
  · next inside rest hc => exact absurd (by simp [Text.cut?_eq_some hc]) h
  · rfl

theorem bracketSegments_indices {is : List Nat} (h : ∀ i ∈ is, i < 1 <<< 64) :
    bracketSegments (is.flatMap indexText) = is.map .index := by
  induction is with
  | nil => simp [bracketSegments]
  | cons i is ih =>
    have hi : (i :: is).flatMap indexText
        = '[' :: (Decimal.digitsOf i ++ ']' :: is.flatMap indexText) := by
      simp [indexText]
    rw [hi, bracketSegments_of_cut? (cut?_digitsOf i _), closedSegment,
      Text.readNatural?_digitsOf (h i (by simp)), ih fun j hj => h j (by simp [hj])]
    rfl

/-- A part that begins with a bracket has no name in front. -/
theorem partSegments_bracket (r : List Char) :
    partSegments ('[' :: r) = bracketSegments ('[' :: r) := by
  simp [partSegments]

/-- A readable part is read as its segments. -/
theorem partSegments_write {p : Part} (h : p.IsReadable) : partSegments p.write = p.segments := by
  have hname : ∀ c ∈ p.name, decide (c ≠ '[') = true := by
    intro c hc
    rw [decide_eq_true_eq]
    rintro rfl
    exact h.noBracket hc
  have hhead : ∀ c ∈ (p.indices.flatMap indexText).head?, c = '[' := by
    cases p.indices with
    | nil => simp
    | cons i is => simp [indexText]
  -- the name ends where the first bracket opens, or at the end of the part
  have htake : p.write.takeWhile (· ≠ '[') = p.name := by
    rw [Part.write, List.takeWhile_append_of_pos hname]
    cases hi : p.indices.flatMap indexText with
    | nil => simp
    | cons c cs => simp [hhead c (by simp [hi])]
  have hdrop : p.write.dropWhile (· ≠ '[') = p.indices.flatMap indexText := by
    rw [Part.write, List.dropWhile_append_of_pos hname]
    cases hi : p.indices.flatMap indexText with
    | nil => simp
    | cons c cs => simp [hhead c (by simp [hi])]
  simp only [partSegments, htake, hdrop, bracketSegments_indices h.fits, Part.segments]

/-! ## Bodies -/

/-- The segments of the text between `$` and the end of a path. -/
def bodySegments (cs : List Char) : List Segment :=
  ((Text.splitOn '.' cs).filter (!·.isEmpty)).flatMap partSegments

/-- A dot parts a body in two. -/
theorem bodySegments_dot (a b : List Char) :
    bodySegments (a ++ '.' :: b) = bodySegments a ++ bodySegments b := by
  rw [bodySegments, Text.splitOn_append, List.filter_append, List.flatMap_append]
  rfl

theorem dot_not_mem_write {p : Part} (h : p.IsReadable) : '.' ∉ p.write := by
  simp only [Part.write, List.mem_append, List.mem_flatMap, not_or, not_exists, not_and]
  refine ⟨h.noDot, fun i _ => ?_⟩
  simp [indexText, not_mem_digitsOf]

/-- A readable part by itself is a body. -/
theorem bodySegments_write {p : Part} (h : p.IsReadable) : bodySegments p.write = p.segments := by
  rw [bodySegments, Text.splitOn_of_not_mem (dot_not_mem_write h)]
  -- an empty part is left out, but it has no segments either
  by_cases he : p.write = []
  · have hr := partSegments_write h
    rw [he] at hr
    rw [he, ← hr]
    simp [partSegments, bracketSegments]
  · simp [he, partSegments_write h]

/-- A text without blank ends that does not begin with a `$` is all body. -/
theorem body_eq_self {cs : List Char} (ht : Text.trim cs = cs) (hd : cs.head? ≠ some '$') :
    body cs = cs := by
  rw [body, ht]
  split
  · simp at hd
  · simp at hd
  · rfl

end Path
end Rehearsal

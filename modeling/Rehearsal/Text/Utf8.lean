/-!
# Bytes of texts

The encoding of texts as UTF-8. `readChar` reads one character strictly: shortest forms only, no
surrogates and nothing past the last code point. Where it fails it says how many bytes are
ill-formed together: the longest beginning of a character, or one byte. `decode?` reads a whole text
or tells where it stops being one; `decodeLossy` puts the replacement character for every ill-formed
run.
-/

namespace Rehearsal

abbrev Bytes := List UInt8

namespace Text.Utf8

/-- The bytes of a text. -/
def encode (cs : List Char) : Bytes := cs.flatMap String.utf8EncodeChar

/-- How many bytes follow the first one, with the bits it gives and the range of the second one. -/
def lead? (b : Nat) : Option (Nat × Nat × Nat × Nat) :=
  if 0xC2 ≤ b ∧ b ≤ 0xDF then some (1, b - 0xC0, 0x80, 0xBF)
  else if b = 0xE0 then some (2, 0, 0xA0, 0xBF)
  else if b = 0xED then some (2, 0xD, 0x80, 0x9F)
  else if 0xE1 ≤ b ∧ b ≤ 0xEF then some (2, b - 0xE0, 0x80, 0xBF)
  else if b = 0xF0 then some (3, 0, 0x90, 0xBF)
  else if b = 0xF4 then some (3, 4, 0x80, 0x8F)
  else if 0xF1 ≤ b ∧ b ≤ 0xF3 then some (3, b - 0xF0, 0x80, 0xBF)
  else none

/-- Read `count` following bytes, the first of them between `low` and `high`; `taken` bytes of the
character have been read before and give the bits `acc`. -/
def readTail : (count acc taken low high : Nat) → Bytes → Except Nat (Nat × Bytes)
  | 0, acc, _, _, _, bs => .ok (acc, bs)
  | _ + 1, _, taken, _, _, [] => .error taken
  | count + 1, acc, taken, low, high, b :: bs =>
    if low ≤ b.toNat ∧ b.toNat ≤ high then
      readTail count (64 * acc + (b.toNat - 0x80)) (taken + 1) 0x80 0xBF bs
    else .error taken

/-- Read one character; if there is none, tell how many bytes are ill-formed. -/
def readChar : Bytes → Except Nat (Char × Bytes)
  | [] => .error 0
  | b :: bs =>
    if b < 0x80 then .ok (Char.ofNat b.toNat, bs)
    else
      match lead? b.toNat with
      | none => .error 1
      | some (count, acc, low, high) =>
        (readTail count acc 1 low high bs).map fun (n, r) => (Char.ofNat n, r)

theorem length_of_readTail {count acc taken low high n : Nat} {bs r : Bytes}
    (h : readTail count acc taken low high bs = .ok (n, r)) : r.length ≤ bs.length := by
  fun_induction readTail count acc taken low high bs with
  | case1 =>
    simp only [Except.ok.injEq, Prod.mk.injEq] at h
    simp [h.2]
  | case2 => simp at h
  | case3 _ _ _ _ _ _ _ _ ih =>
    have := ih h
    simp only [List.length_cons]
    omega
  | case4 => simp at h

/-- A character takes at least one byte. -/
theorem length_of_readChar {bs r : Bytes} {c : Char} (h : readChar bs = .ok (c, r)) :
    r.length < bs.length := by
  unfold readChar at h
  split at h
  · simp at h
  · next b bs =>
    split at h
    · simp only [Except.ok.injEq, Prod.mk.injEq] at h
      simp [h.2]
    · split at h
      · simp at h
      · next count acc low high _ =>
        cases ht : readTail count acc 1 low high bs with
        | error e => simp [ht, Except.map] at h
        | ok p =>
          obtain ⟨n, r'⟩ := p
          simp only [ht, Except.map, Except.ok.injEq, Prod.mk.injEq] at h
          have := length_of_readTail ht
          simp only [← h.2, List.length_cons]
          omega

/-- Read a whole text, or tell at which byte it stops being one; `offset` bytes stand before. A
character has been read from its shortest form. -/
def decodeFrom (offset : Nat) (bs : Bytes) : Except Nat (List Char) :=
  match bs with
  | [] => .ok []
  | b :: bs =>
    match h : readChar (b :: bs) with
    | .error _ => .error offset
    | .ok (c, r) =>
      have := length_of_readChar h
      (decodeFrom (offset + c.utf8Size) r).map (c :: ·)
termination_by bs.length
decreasing_by assumption

def decode? (bs : Bytes) : Except Nat (List Char) := decodeFrom 0 bs

/-- The character that stands for what could not be read. -/
def replacement : Char := Char.ofNat 0xFFFD

/-- Read a text with a replacement character for every ill-formed run of bytes. -/
def decodeLossy (bs : Bytes) : List Char :=
  match bs with
  | [] => []
  | b :: bs =>
    match h : readChar (b :: bs) with
    | .error n => replacement :: decodeLossy (bs.drop (n - 1))
    | .ok (c, r) =>
      have := length_of_readChar h
      c :: decodeLossy r
termination_by bs.length
decreasing_by all_goals simp only [List.length_drop, List.length_cons] at *; omega

end Text.Utf8
end Rehearsal

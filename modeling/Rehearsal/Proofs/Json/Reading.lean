import Rehearsal.Proofs.Json.Depth
import Rehearsal.Proofs.Json.Number

/-!
# Reading written values

A value whose numbers are read back is read from its written form up to the character that closes it
(`Source.exists_ofText_render`), as a source that means the value. The value of such a source is the
value itself, if it is not nested too deeply (`Source.Means.value_eq`), and never another one
(`Source.Means.eq_of_value`).
-/

namespace Rehearsal.Json

/-! ## Texts -/

section
variable {c d : Char}

/-- A character is escaped by a letter or by its number, or it stands for itself. -/
theorem escapeChar_cases (c : Char) :
    (∃ d, escapeChar c = ['\\', d] ∧ d ≠ 'u' ∧ simpleEscape? d = some c)
      ∨ (c.toNat < 32 ∧ escapeChar c
          = ['\\', 'u', '0', '0', hexDigit (c.toNat / 16), hexDigit (c.toNat % 16)])
      ∨ (escapeChar c = [c] ∧ c ≠ '"' ∧ c ≠ '\\' ∧ 32 ≤ c.toNat) := by
  have hnumber {n : Nat} (h : c.toNat = n) : c = Char.ofNat n := by rw [← h, Char.ofNat_toNat]
  unfold escapeChar
  split
  · next h => exact .inl ⟨'"', rfl, by decide, by rw [h]; rfl⟩
  split
  · next h => exact .inl ⟨'\\', rfl, by decide, by rw [h]; rfl⟩
  split
  · next h => exact .inl ⟨'n', rfl, by decide, by rw [h]; rfl⟩
  split
  · next h => exact .inl ⟨'r', rfl, by decide, by rw [h]; rfl⟩
  split
  · next h => exact .inl ⟨'t', rfl, by decide, by rw [h]; rfl⟩
  split
  · next h => exact .inl ⟨'b', rfl, by decide, by rw [hnumber h]; rfl⟩
  split
  · next h => exact .inl ⟨'f', rfl, by decide, by rw [hnumber h]; rfl⟩
  split
  · next h => exact .inr (.inl ⟨h, rfl⟩)
  · next hquote hback _ _ _ _ _ h => exact .inr (.inr ⟨rfl, hquote, hback, by omega⟩)

/-- An escape of one character is read as the character that it stands for. -/
theorem readQuoted_simpleEscape (hd : d ≠ 'u') (h : simpleEscape? d = some c) (r : List Char) :
    readQuoted ('\\' :: d :: r) = (readQuoted r).map fun (ps, t) => (.char c :: ps, t) := by
  rw [readQuoted.eq_def]
  split
  · simp_all
  · simp_all
  · simp_all
  · next heq =>
    cases heq
    rw [h]
  · next hnot heq =>
    cases heq
    exact absurd rfl (hnot d r rfl)

/-- Control characters are written with two digits behind two zeros, and read from them. -/
theorem readHex?_control : ∀ n < 32, Text.readHex? ['0', '0', hexDigit (n / 16), hexDigit (n % 16)]
    = some n := by
  decide

/-- A character that needs no escape is read as itself. -/
theorem readQuoted_plain (hquote : c ≠ '"') (hback : c ≠ '\\') (h : 32 ≤ c.toNat)
    (r : List Char) :
    readQuoted (c :: r) = (readQuoted r).map fun (ps, t) => (.char c :: ps, t) := by
  rw [readQuoted.eq_def]
  split
  · simp_all
  · simp_all
  · simp_all
  · simp_all
  · next heq =>
    cases heq
    rw [if_neg (by omega), if_neg hback]

/-- Below the surrogates a unit is a character. -/
theorem decode_unit {n : Nat} (h : n < 0xD800) (ps : List Piece) :
    Piece.decode (.unit n :: ps) = (Piece.decode ps).map (Char.ofNat n :: ·) := by
  have hlow : isLowSurrogate n = false := by simp [isLowSurrogate]; omega
  have hhigh : isHighSurrogate n = false := by simp [isHighSurrogate]; omega
  rw [Piece.decode.eq_def]
  simp [hlow, hhigh]

/-- Every character is written as a piece that stands for it. -/
theorem exists_piece_escapeChar (c : Char) : ∃ p : Piece,
    (∀ r, readQuoted (escapeChar c ++ r) = (readQuoted r).map fun (ps, t) => (p :: ps, t))
      ∧ ∀ ps, Piece.decode (p :: ps) = (Piece.decode ps).map (c :: ·) := by
  rcases escapeChar_cases c with ⟨d, he, hd, hc⟩ | ⟨hc, he⟩ | ⟨he, hquote, hback, hc⟩
  · exact ⟨.char c, fun r => by rw [he]; exact readQuoted_simpleEscape hd hc r, fun ps => rfl⟩
  · refine ⟨.unit c.toNat, fun r => ?_, fun ps => ?_⟩
    · rw [he]
      simp only [List.cons_append, List.nil_append]
      rw [readQuoted, readHex?_control _ hc]
    · rw [decode_unit (by omega), Char.ofNat_toNat]
  · exact ⟨.char c, fun r => by rw [he]; exact readQuoted_plain hquote hback hc r, fun ps => rfl⟩

end

/-- A text is read from its quoted form. -/
theorem exists_pieces_quote (cs : List Char) : ∃ ps : List Piece,
    (∀ r, readQuoted (cs.flatMap escapeChar ++ '"' :: r) = .ok (ps, r))
      ∧ Piece.decode ps = .ok cs := by
  induction cs with
  | nil => exact ⟨[], fun r => rfl, rfl⟩
  | cons c cs ih =>
    obtain ⟨ps, hread, hdecode⟩ := ih
    obtain ⟨p, hp, hpc⟩ := exists_piece_escapeChar c
    refine ⟨p :: ps, fun r => ?_, ?_⟩
    · rw [List.flatMap_cons, List.append_assoc, hp, hread]
      rfl
    · rw [hpc, hdecode]
      rfl

/-! ## Values and their sources -/

mutual
/-- The numbers in a value. -/
def numbers : Json → List Number
  | .number n => [n]
  | .array items => itemsNumbers items
  | .object fields => fieldsNumbers fields
  | _ => []

def itemsNumbers : List Json → List Number
  | [] => []
  | v :: vs => numbers v ++ itemsNumbers vs

def fieldsNumbers : List (String × Json) → List Number
  | [] => []
  | (_, v) :: fs => numbers v ++ fieldsNumbers fs
end

/-- The numbers in a value are read back if the doubles are. -/
theorem forall_isReadBack {v : Json}
    (h : ∀ d finite, .double d finite ∈ v.numbers → (Number.double d finite).IsReadBack) :
    ∀ n ∈ v.numbers, n.IsReadBack := by
  intro n hn
  cases n with
  | whole n fits => exact Number.isReadBack_whole n fits
  | negative n fits => exact Number.isReadBack_negative n fits
  | double d finite => exact h d finite hn

namespace Source

mutual
/-- The source means the value, with the fields of objects in the same order. -/
inductive Means : Source → Json → Prop
  | null : Means .null .null
  | bool (b : Bool) : Means (.bool b) (.bool b)
  | number {parts : NumberParts} {n : Number} (h : parts.value = .ok (.number n)) :
    Means (.number parts) (.number n)
  | text {ps : List Piece} {s : String} (h : Piece.text ps = .ok s) : Means (.text ps) (.text s)
  | array {ss : List Source} {vs : List Json} (h : ItemsMean ss vs) : Means (.array ss) (.array vs)
  | object {ss : List (List Piece × Source)} {fs : List (String × Json)} (h : FieldsMean ss fs) :
    Means (.object ss) (.object fs)

/-- Sources of items mean values one by one. -/
inductive ItemsMean : List Source → List Json → Prop
  | nil : ItemsMean [] []
  | cons {s : Source} {v : Json} {ss : List Source} {vs : List Json} (head : Means s v)
      (tail : ItemsMean ss vs) : ItemsMean (s :: ss) (v :: vs)

/-- Sources of fields mean keys and values one by one. -/
inductive FieldsMean : List (List Piece × Source) → List (String × Json) → Prop
  | nil : FieldsMean [] []
  | cons {ps : List Piece} {k : String} {s : Source} {v : Json} {ss : List (List Piece × Source)}
      {fs : List (String × Json)} (key : Piece.text ps = .ok k) (head : Means s v)
      (tail : FieldsMean ss fs) : FieldsMean ((ps, s) :: ss) ((k, v) :: fs)
end

mutual
/-- What a source means is its value, as far as it may be nested that deep. -/
theorem Means.value_eq : ∀ {s : Source} {v : Json}, Means s v → ∀ {levels : Nat},
    v.depth ≤ levels → value levels s = .ok v
  | _, _, .null, levels, _ => by cases levels <;> rfl
  | _, _, .bool b, levels, _ => by cases levels <;> rfl
  | _, _, .number h, levels, _ => by cases levels <;> exact h
  | _, _, .text h, levels, _ => by rw [value.eq_def]; exact check_map_eq_ok.2 ⟨_, h, rfl⟩
  | _, _, .array h, levels + 1, hd =>
    check_map_eq_ok.2 ⟨_, h.values_eq (Nat.le_of_succ_le_succ hd), rfl⟩
  | _, _, .object h, levels + 1, hd =>
    check_map_eq_ok.2 ⟨_, h.values_eq (Nat.le_of_succ_le_succ hd), rfl⟩

/-- Within the levels that there are, the values of the items are those that are meant. -/
theorem ItemsMean.values_eq : ∀ {ss : List Source} {vs : List Json}, ItemsMean ss vs →
    ∀ {levels : Nat}, itemsDepth vs ≤ levels → itemValues levels ss = .ok vs
  | _, _, .nil, levels, _ => by rw [itemValues.eq_def]
  | _, _, .cons hv hvs, levels, hd => by
    have hd := Nat.max_le.1 hd
    rw [itemValues, hv.value_eq hd.1, hvs.values_eq hd.2]
    rfl

/-- And so are those of the fields. -/
theorem FieldsMean.values_eq : ∀ {ss : List (List Piece × Source)} {fs : List (String × Json)},
    FieldsMean ss fs → ∀ {levels : Nat}, fieldsDepth fs ≤ levels → fieldValues levels ss = .ok fs
  | _, _, .nil, levels, _ => by rw [fieldValues.eq_def]
  | _, _, .cons hk hv hfs, levels, hd => by
    have hd := Nat.max_le.1 hd
    rw [fieldValues, hk, hv.value_eq hd.1, hfs.values_eq hd.2]
    rfl
end

mutual
/-- A source has no other value than what it means. -/
theorem Means.eq_of_value : ∀ {s : Source} {v : Json}, Means s v → ∀ {levels : Nat} {u : Json},
    value levels s = .ok u → u = v
  | _, _, .null, levels, u, h => by cases levels <;> cases h <;> rfl
  | _, _, .bool b, levels, u, h => by cases levels <;> cases h <;> rfl
  | _, _, .number hn, levels, u, h => by
    rw [value.eq_def] at h
    exact Except.ok.inj (h.symm.trans hn)
  | _, _, .text ht, levels, u, h => by
    rw [value.eq_def] at h
    obtain ⟨s, hs, rfl⟩ := check_map_eq_ok.1 h
    exact congrArg Json.text (Except.ok.inj (hs.symm.trans ht))
  | _, _, .array hvs, 0, u, h => nomatch h
  | _, _, .object hfs, 0, u, h => nomatch h
  | _, _, .array hvs, levels + 1, u, h => by
    obtain ⟨us, hus, rfl⟩ := check_map_eq_ok.1 h
    exact congrArg Json.array (hvs.eq_of_values hus)
  | _, _, .object hfs, levels + 1, u, h => by
    obtain ⟨us, hus, rfl⟩ := check_map_eq_ok.1 h
    exact congrArg Json.object (hfs.eq_of_values hus)

/-- Items have no other values than those that are meant. -/
theorem ItemsMean.eq_of_values : ∀ {ss : List Source} {vs : List Json}, ItemsMean ss vs →
    ∀ {levels : Nat} {us : List Json}, itemValues levels ss = .ok us → us = vs
  | _, _, .nil, levels, us, h => by rw [itemValues.eq_def] at h; cases h; rfl
  | _, _, .cons hv hvs, levels, us, h => by
    rw [itemValues] at h
    obtain ⟨u, hu, h⟩ := check_bind_eq_ok.1 h
    obtain ⟨us', hus, h⟩ := check_bind_eq_ok.1 h
    cases h
    rw [hv.eq_of_value hu, hvs.eq_of_values hus]

/-- Nor have fields. -/
theorem FieldsMean.eq_of_values : ∀ {ss : List (List Piece × Source)} {fs : List (String × Json)},
    FieldsMean ss fs → ∀ {levels : Nat} {us : List (String × Json)},
    fieldValues levels ss = .ok us → us = fs
  | _, _, .nil, levels, us, h => by rw [fieldValues.eq_def] at h; cases h; rfl
  | _, _, .cons hk hv hfs, levels, us, h => by
    rw [fieldValues] at h
    obtain ⟨k, hk', h⟩ := check_bind_eq_ok.1 h
    obtain ⟨u, hu, h⟩ := check_bind_eq_ok.1 h
    obtain ⟨us', hus, h⟩ := check_bind_eq_ok.1 h
    cases h
    rw [Except.ok.inj (hk'.symm.trans hk), hv.eq_of_value hu, hfs.eq_of_values hus]
end

/-! ## Reading -/

/-- The text is read as this source, whatever closes it, with a step for each of its characters. -/
structure Reads (cs : List Char) (s : Source) : Prop where
  head : ∃ c t, cs = c :: t ∧ isBlank c = false ∧ c ≠ ']'
  read {fuel : Nat} {r : List Char} : cs.length ≤ fuel → Closes r →
    Source.read fuel (cs ++ r) = .ok (s, r)

/-- The text is read as the items of an array, its closing bracket included. -/
def ItemsRead (cs : List Char) (ss : List Source) : Prop :=
  ∀ {fuel : Nat} {r : List Char}, cs.length ≤ fuel → readItems fuel (cs ++ r) = .ok (ss, r)

/-- The text is read as the fields of an object, its closing brace included. -/
def FieldsRead (cs : List Char) (ss : List (List Piece × Source)) : Prop :=
  ∀ {fuel : Nat} {r : List Char}, cs.length ≤ fuel → readFields fuel (cs ++ r) = .ok (ss, r)

/-- The key is read as these pieces up to its closing quote. -/
def KeyReads (k : List Char) (ps : List Piece) : Prop :=
  ∀ r, readQuoted (k.flatMap escapeChar ++ '"' :: r) = .ok (ps, r)

/-- A comma, a bracket or a brace closes what stands in front of it. -/
theorem closes_cons {c : Char} (h : c = ',' ∨ c = ']' ∨ c = '}') (r : List Char) :
    Closes (c :: r) := fun _ hd => Option.some.inj hd ▸ h

section
variable {cs t k : List Char} {s : Source} {ss : List Source} {ps : List Piece}

/-! ### Items -/

/-- The last item is followed by the closing bracket. -/
theorem itemsRead_close (h : Reads cs s) : ItemsRead (cs ++ [']']) [s] := by
  intro fuel r hf
  rw [List.length_append, List.length_singleton] at hf
  -- a step is left, as the text has a character at least
  obtain ⟨fuel, rfl⟩ : ∃ n, fuel = n + 1 := ⟨fuel - 1, by omega⟩
  rw [List.append_assoc, List.singleton_append, readItems,
    h.read (by omega) (closes_cons (by simp) r)]
  rfl

/-- An item with a comma behind it comes in front of the others. -/
theorem itemsRead_comma (h : Reads cs s) (ht : ItemsRead t ss) :
    ItemsRead (cs ++ ',' :: t) (s :: ss) := by
  intro fuel r hf
  rw [List.length_append, List.length_cons] at hf
  obtain ⟨fuel, rfl⟩ : ∃ n, fuel = n + 1 := ⟨fuel - 1, by omega⟩
  rw [List.append_assoc, List.cons_append, readItems,
    h.read (by omega) (closes_cons (by simp) _)]
  show (readItems fuel (t ++ r) >>= fun p => pure (s :: p.1, p.2)) = _
  rw [ht (by omega)]
  rfl

/-! ### Fields -/

/-- The key of a field is read up to the colon. -/
theorem readFields_key (hk : KeyReads k ps) (fuel : Nat) (r : List Char) :
    readFields (fuel + 1) (quote k ++ ':' :: r)
      = (do
        let (v, r) ← Source.read fuel r
        match skipBlanks r with
        | '}' :: r => return ([(ps, v)], r)
        | ',' :: r =>
          let (fs, r) ← readFields fuel r
          return ((ps, v) :: fs, r)
        | r => unexpected r) := by
  have hquote : skipBlanks (quote k ++ ':' :: r)
      = '"' :: (k.flatMap escapeChar ++ '"' :: ':' :: r) := by
    rw [quote, List.cons_append, List.cons_append, skipBlanks_cons (by decide), List.append_assoc]
    rfl
  rw [readFields, hquote]
  split
  · next heq =>
    cases heq
    rw [hk]
    rfl
  · next hnot => exact absurd rfl (hnot _)

/-- The last field is followed by the closing brace. -/
theorem fieldsRead_close (hk : KeyReads k ps) (h : Reads cs s) :
    FieldsRead (quote k ++ ':' :: (cs ++ ['}'])) [(ps, s)] := by
  intro fuel r hf
  simp only [List.length_append, List.length_cons] at hf
  obtain ⟨fuel, rfl⟩ : ∃ n, fuel = n + 1 := ⟨fuel - 1, by omega⟩
  rw [List.append_assoc, List.cons_append, readFields_key hk, List.append_assoc,
    List.singleton_append, h.read (by omega) (closes_cons (by simp) r)]
  rfl

/-- A field with a comma behind it comes in front of the others. -/
theorem fieldsRead_comma {fs : List (List Piece × Source)} (hk : KeyReads k ps) (h : Reads cs s)
    (ht : FieldsRead t fs) : FieldsRead (quote k ++ ':' :: (cs ++ ',' :: t)) ((ps, s) :: fs) := by
  intro fuel r hf
  simp only [List.length_append, List.length_cons] at hf
  obtain ⟨fuel, rfl⟩ : ∃ n, fuel = n + 1 := ⟨fuel - 1, by omega⟩
  rw [List.append_assoc, List.cons_append, readFields_key hk, List.append_assoc,
    List.cons_append, h.read (by omega) (closes_cons (by simp) _)]
  show (readFields fuel (t ++ r) >>= fun p => pure ((ps, s) :: p.1, p.2)) = _
  rw [ht (by omega)]
  rfl

/-! ### Values -/

/-- A text is read if it is read with one step to spare. -/
theorem reads_of_succ (head : ∃ c t, cs = c :: t ∧ isBlank c = false ∧ c ≠ ']')
    (h : ∀ {fuel r}, cs.length ≤ fuel + 1 → Closes r →
      Source.read (fuel + 1) (cs ++ r) = .ok (s, r)) : Reads cs s where
  head := head
  read {fuel r} hf hr := by
    obtain ⟨c, t, rfl, -⟩ := head
    cases fuel with
    | zero => cases hf
    | succ fuel => exact h hf hr

theorem reads_null : Reads "null".toList .null :=
  reads_of_succ ⟨'n', _, rfl, rfl, by decide⟩ fun _ _ => rfl

/-- The words are read whatever closes them. -/
theorem reads_bool (b : Bool) : Reads (Json.bool b).write (.bool b) := by
  cases b
  · exact reads_of_succ ⟨'f', _, rfl, rfl, by decide⟩ fun _ _ => rfl
  · exact reads_of_succ ⟨'t', _, rfl, rfl, by decide⟩ fun _ _ => rfl

/-- A number that is read back is read in front of whatever closes it. -/
theorem exists_reads_number {n : Number} (h : n.IsReadBack) :
    ∃ s, Reads n.write s ∧ Means s (.number n) := by
  obtain ⟨parts, hvalue, ⟨c, t, hw, hc⟩, hread⟩ := h.exists_parts
  refine ⟨.number parts, reads_of_succ ⟨c, t, hw, ?_, ?_⟩ fun _ hr => hread _ _ hr, .number hvalue⟩
  · rcases hc with rfl | hc
    · rfl
    · exact isBlank_of_isDigit hc
  · rintro rfl
    rcases hc with hc | hc <;> cases hc

/-- A text ends at its quote, whatever stands behind it. -/
theorem reads_text (hk : KeyReads k ps) : Reads (quote k) (.text ps) := by
  refine reads_of_succ ⟨'"', _, rfl, rfl, by decide⟩ fun {fuel r} _ _ => ?_
  show (readQuoted (k.flatMap escapeChar ++ ['"'] ++ r)).map _ = _
  rw [List.append_assoc, List.singleton_append, hk]
  rfl

/-- An array that is not empty is read item by item; its first item does not begin with a closing
bracket. -/
theorem reads_array (hcs : Reads cs s) (h : ItemsRead (cs ++ t) ss) :
    Reads ('[' :: (cs ++ t)) (.array ss) := by
  refine reads_of_succ ⟨'[', _, rfl, rfl, by decide⟩ fun {fuel r} hf _ => ?_
  obtain ⟨c, u, rfl, hb, hc⟩ := hcs.head
  have hopen : skipBlanks ('[' :: (c :: u ++ t) ++ r) = '[' :: (c :: u ++ t ++ r) := rfl
  have hitem : skipBlanks (c :: u ++ t ++ r) = c :: u ++ t ++ r := skipBlanks_cons hb _
  simp only [Source.read, hopen, hitem]
  -- an array that begins with its closing bracket would be empty
  split
  · next heq => cases heq; exact absurd rfl hc
  · rw [h (Nat.le_of_succ_le_succ hf)]
    rfl

/-- An object that is not empty is read field by field. -/
theorem reads_object {fs : List (List Piece × Source)} (h : FieldsRead (quote k ++ t) fs) :
    Reads ('{' :: (quote k ++ t)) (.object fs) := by
  refine reads_of_succ ⟨'{', _, rfl, rfl, by decide⟩ fun {fuel r} hf _ => ?_
  show (readFields fuel (quote k ++ t ++ r)).map _ = _
  rw [h (Nat.le_of_succ_le_succ hf)]
  rfl

end

/-- An object is written as its first field and then the others, each with a comma in front. -/
theorem write_object_cons (k : String) (v : Json) (fs : List (String × Json)) :
    (Json.object ((k, v) :: fs)).write
      = '{' :: (quote k.toList ++ ':' :: (v.write ++ writeFields fs)) := by
  simp [Json.write]

theorem writeFields_cons (k : String) (v : Json) (fs : List (String × Json)) :
    writeFields ((k, v) :: fs) = ',' :: (quote k.toList ++ ':' :: (v.write ++ writeFields fs)) := by
  simp [writeFields]

mutual
/-- A value whose numbers are read back is read as a source that means it. -/
theorem exists_reads_write : ∀ (v : Json), (∀ n ∈ v.numbers, n.IsReadBack) →
    ∃ s, Reads v.write s ∧ Means s v
  | .null, _ => ⟨.null, reads_null, .null⟩
  | .bool b, _ => ⟨.bool b, reads_bool b, .bool b⟩
  | .number n, h => exists_reads_number (h n (List.mem_singleton.2 rfl))
  | .text s, _ => by
    obtain ⟨ps, hread, hps⟩ := exists_pieces_quote s.toList
    exact ⟨.text ps, reads_text hread, .text (check_map_eq_ok.2 ⟨_, hps, String.ofList_toList⟩)⟩
  | .array [], _ =>
    ⟨.array [], reads_of_succ ⟨'[', _, rfl, rfl, by decide⟩ fun _ _ => rfl, .array .nil⟩
  | .array (v :: vs), h => by
    obtain ⟨s, hs, hv⟩ := exists_reads_write v fun n hn => h n (List.mem_append_left _ hn)
    obtain ⟨ss, hss, hvs⟩ := exists_itemsRead_write vs fun n hn =>
      h n (List.mem_append_right _ hn)
    exact ⟨.array (s :: ss), reads_array hs (hss hs), .array (.cons hv hvs)⟩
  | .object [], _ =>
    ⟨.object [], reads_of_succ ⟨'{', _, rfl, rfl, by decide⟩ fun _ _ => rfl, .object .nil⟩
  | .object ((k, v) :: fs), h => by
    obtain ⟨ps, hread, hps⟩ := exists_pieces_quote k.toList
    obtain ⟨s, hs, hv⟩ := exists_reads_write v fun n hn => h n (List.mem_append_left _ hn)
    obtain ⟨ss, hss, hfs⟩ := exists_fieldsRead_write fs fun n hn =>
      h n (List.mem_append_right _ hn)
    refine ⟨.object ((ps, s) :: ss), ?_,
      .object (.cons (check_map_eq_ok.2 ⟨_, hps, String.ofList_toList⟩) hv hfs)⟩
    rw [write_object_cons]
    exact reads_object (hss hread hs)

/-- The items behind the first one. -/
theorem exists_itemsRead_write : ∀ (vs : List Json), (∀ n ∈ itemsNumbers vs, n.IsReadBack) →
    ∃ ss, (∀ {cs s}, Reads cs s → ItemsRead (cs ++ writeItems vs) (s :: ss)) ∧ ItemsMean ss vs
  | [], _ => ⟨[], itemsRead_close, .nil⟩
  | v :: vs, h => by
    obtain ⟨s, hs, hv⟩ := exists_reads_write v fun n hn => h n (List.mem_append_left _ hn)
    obtain ⟨ss, hss, hvs⟩ := exists_itemsRead_write vs fun n hn =>
      h n (List.mem_append_right _ hn)
    exact ⟨s :: ss, fun hcs => itemsRead_comma hcs (hss hs), .cons hv hvs⟩

/-- The fields behind the first one. -/
theorem exists_fieldsRead_write : ∀ (fs : List (String × Json)),
    (∀ n ∈ fieldsNumbers fs, n.IsReadBack) →
    ∃ ss, (∀ {k ps cs s}, KeyReads k ps → Reads cs s →
      FieldsRead (quote k ++ ':' :: (cs ++ writeFields fs)) ((ps, s) :: ss)) ∧ FieldsMean ss fs
  | [], _ => ⟨[], fieldsRead_close, .nil⟩
  | (k, v) :: fs, h => by
    obtain ⟨ps, hread, hps⟩ := exists_pieces_quote k.toList
    obtain ⟨s, hs, hv⟩ := exists_reads_write v fun n hn => h n (List.mem_append_left _ hn)
    obtain ⟨ss, hss, hfs⟩ := exists_fieldsRead_write fs fun n hn =>
      h n (List.mem_append_right _ hn)
    refine ⟨(ps, s) :: ss, fun hkey hcs => ?_,
      .cons (check_map_eq_ok.2 ⟨_, hps, String.ofList_toList⟩) hv hfs⟩
    rw [writeFields_cons]
    exact fieldsRead_comma hkey hcs (hss hread hs)
end

/-- The written form of a value is read as a source that means it. -/
theorem exists_ofText_render {v : Json} (h : ∀ n ∈ v.numbers, n.IsReadBack) :
    ∃ s, ofText v.render = .ok s ∧ Means s v := by
  obtain ⟨s, hs, hv⟩ := exists_reads_write v h
  -- there are more steps than characters, and nothing stands behind the value
  have hread := hs.read (show v.write.length ≤ 2 * v.write.length + 2 by omega) closes_nil
  rw [List.append_nil] at hread
  refine ⟨s, ?_, hv⟩
  rw [ofText, render, String.toList_ofList]
  exact ofChars_eq_ok.2 ⟨[], hread, rfl⟩

end Source

end Rehearsal.Json

import Rehearsal.Json.Parser

/-!
# Normal form of documents

In the normal form of an object the keys stand in strictly increasing order. Main statements:
putting a field into a sorted list keeps it sorted (`keysSorted_insertField`), `normalize` gives a
value in normal form (`isNormal_normalize`) and changes none that is (`normalize_eq_self`), and
every document that is read is in normal form (`isNormal_of_parse`).
-/

namespace Rehearsal.Json

/-- The keys of a list of fields stand in strictly increasing order. -/
def KeysSorted (fs : List (String × Json)) : Prop := (fs.map (·.1)).Pairwise (· < ·)

section
variable {k key : String} {v value : Json} {fs : List (String × Json)}

/-- The first key does not come again. -/
theorem KeysSorted.not_mem (h : KeysSorted ((k, v) :: fs)) : k ∉ fs.map (·.1) :=
  fun hk => String.lt_irrefl k ((List.pairwise_cons.1 h).1 k hk)

theorem KeysSorted.tail (h : KeysSorted ((k, v) :: fs)) : KeysSorted fs :=
  (List.pairwise_cons.1 h).2

/-- A field that is put in brings no key but its own. -/
theorem eq_or_mem_of_mem_insertField {x : String}
    (h : x ∈ (insertField key value fs).map (·.1)) : x = key ∨ x ∈ fs.map (·.1) := by
  induction fs with
  | nil => exact .inl (List.mem_singleton.1 h)
  | cons f fs ih =>
    obtain ⟨k, v⟩ := f
    simp only [insertField] at h
    split at h
    · exact List.mem_cons.1 h
    · split at h
      · rcases List.mem_cons.1 h with h | h
        · exact .inl h
        · exact .inr (List.mem_cons_of_mem k h)
      · rcases List.mem_cons.1 h with rfl | h
        · exact .inr List.mem_cons_self
        · exact (ih h).imp_right (List.mem_cons_of_mem k)

/-- Keys stay sorted: a field is inserted where its key belongs, or takes the place of one with it.
-/
theorem keysSorted_insertField (h : KeysSorted fs) : KeysSorted (insertField key value fs) := by
  induction fs with
  | nil => exact List.pairwise_singleton _ key
  | cons f fs ih =>
    obtain ⟨k, v⟩ := f
    have hlt : ∀ x ∈ fs.map (·.1), k < x := (List.pairwise_cons.1 h).1
    simp only [insertField]
    split
    · next hk =>
      refine List.pairwise_cons.2 ⟨fun x hx => ?_, h⟩
      rcases List.mem_cons.1 hx with rfl | hx
      · exact hk
      · exact String.lt_trans hk (hlt x hx)
    · next hk =>
      split
      · next he =>
        subst he
        exact List.pairwise_cons.2 ⟨hlt, h.tail⟩
      · next he =>
        -- the key is neither smaller than the first one nor the same, so it belongs behind it
        have hgt : k < key := Decidable.byContradiction fun hn =>
          he (String.le_antisymm (String.not_lt.1 hn) (String.not_lt.1 hk))
        refine List.pairwise_cons.2 ⟨fun x hx => ?_, ih h.tail⟩
        rcases eq_or_mem_of_mem_insertField hx with rfl | hx
        · exact hgt
        · exact hlt x hx

/-- Inserting a value in normal form keeps values so. -/
theorem fieldsNormal_insertField (hv : value.IsNormal) (h : FieldsNormal fs) :
    FieldsNormal (insertField key value fs) := by
  induction fs with
  | nil => exact ⟨hv, trivial⟩
  | cons f fs ih =>
    obtain ⟨k, v⟩ := f
    simp only [insertField]
    split
    · exact ⟨hv, h⟩
    · split
      · exact ⟨hv, h.2⟩
      · exact ⟨h.1, ih h.2⟩

end

/-- Sorting keeps a list sorted that it starts from, and normal values normal. -/
theorem isNormal_foldl_insertField {fs acc : List (String × Json)} (hs : KeysSorted acc)
    (hn : FieldsNormal acc) (h : FieldsNormal fs) :
    IsNormal (.object (fs.foldl (fun acc (k, v) => insertField k v acc) acc)) := by
  induction fs generalizing acc with
  | nil => exact ⟨hs, hn⟩
  | cons f fs ih => exact ih (keysSorted_insertField hs) (fieldsNormal_insertField h.1 hn) h.2

mutual
/-- Normalizing gives the normal form. -/
theorem isNormal_normalize : ∀ (v : Json), v.normalize.IsNormal
  | .array items => itemsNormal_normalize items
  | .object fields =>
    isNormal_foldl_insertField List.Pairwise.nil trivial (fieldsNormal_normalize fields)
  | .null | .bool _ | .number _ | .text _ => trivial

/-- Items are put into normal form one by one. -/
theorem itemsNormal_normalize : ∀ (vs : List Json), ItemsNormal (normalizeItems vs)
  | [] => trivial
  | v :: vs => ⟨isNormal_normalize v, itemsNormal_normalize vs⟩

/-- So are the values of fields; that the keys are sorted is shown apart. -/
theorem fieldsNormal_normalize : ∀ (fs : List (String × Json)), FieldsNormal (normalizeFields fs)
  | [] => trivial
  | (_, v) :: fs => ⟨isNormal_normalize v, fieldsNormal_normalize fs⟩
end

/-! ### Values in normal form -/

/-- A field with the greatest key comes last. -/
theorem insertField_eq_append {key : String} {value : Json} {fs : List (String × Json)}
    (h : ∀ k ∈ fs.map (·.1), k < key) : insertField key value fs = fs ++ [(key, value)] := by
  induction fs with
  | nil => rfl
  | cons f fs ih =>
    obtain ⟨k, v⟩ := f
    have hk : k < key := h k (by simp)
    have hnot : ¬ key < k := fun hlt => String.lt_irrefl k (String.lt_trans hk hlt)
    have hne : key ≠ k := fun he => String.lt_irrefl k (he ▸ hk)
    rw [insertField, if_neg hnot, if_neg hne, ih fun x hx => h x (by simp [hx])]
    rfl

/-- Sorted fields are inserted one behind the other. -/
theorem foldl_insertField_eq_append (acc : List (String × Json)) {fs : List (String × Json)}
    (h : KeysSorted (acc ++ fs)) :
    fs.foldl (fun acc (k, v) => insertField k v acc) acc = acc ++ fs := by
  induction fs generalizing acc with
  | nil => rw [List.append_nil]; rfl
  | cons f fs ih =>
    obtain ⟨k, v⟩ := f
    have hk : ∀ x ∈ acc.map (·.1), x < k := by
      rw [KeysSorted, List.map_append, List.pairwise_append] at h
      exact fun x hx => h.2.2 x hx k (by simp)
    show fs.foldl _ (insertField k v acc) = _
    rw [insertField_eq_append hk, ih _ (by simpa using h), List.append_assoc]
    rfl

mutual
/-- A value in normal form is its own normal form. -/
theorem normalize_eq_self : ∀ {v : Json}, v.IsNormal → v.normalize = v
  | .array _, h => congrArg Json.array (normalizeItems_eq_self h)
  | .object fields, h => by
    rw [normalize, normalizeFields_eq_self h.2]
    exact congrArg Json.object (foldl_insertField_eq_append [] h.1)
  | .null, _ | .bool _, _ | .number _, _ | .text _, _ => rfl

/-- Items in normal form stay. -/
theorem normalizeItems_eq_self : ∀ {vs : List Json}, ItemsNormal vs → normalizeItems vs = vs
  | [], _ => rfl
  | _ :: _, h => by rw [normalizeItems, normalize_eq_self h.1, normalizeItems_eq_self h.2]

/-- Fields with values in normal form stay. -/
theorem normalizeFields_eq_self : ∀ {fs : List (String × Json)}, FieldsNormal fs →
    normalizeFields fs = fs
  | [], _ => rfl
  | (_, _) :: _, h => by rw [normalizeFields, normalize_eq_self h.1, normalizeFields_eq_self h.2]
end

/-- A document that is read is in normal form. -/
theorem isNormal_of_parse {s : String} {v : Json} (h : parse s = .ok v) : v.IsNormal := by
  unfold parse at h
  cases hs : Source.ofText s with
  | error f => rw [hs] at h; cases h
  | ok source =>
    rw [hs] at h
    cases hv : source.value maxDepth with
    | error f =>
      have h : (source.value maxDepth >>= fun u => pure u.normalize) = .ok v := h
      rw [hv] at h
      cases h
    | ok u =>
      have h : (source.value maxDepth >>= fun u => pure u.normalize) = .ok v := h
      rw [hv] at h
      cases h
      exact isNormal_normalize u

end Rehearsal.Json

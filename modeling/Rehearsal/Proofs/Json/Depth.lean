import Rehearsal.Proofs.Json.Number

/-!
# Depth of documents

A value that is read with so many levels to open has no more of them (`depth_le_of_value`), and its
normal form does not have more than it has itself (`depth_normalize_le`).
-/

namespace Rehearsal.Json

mutual
/-- How many levels of arrays and objects there are in a value. -/
def depth : Json → Nat
  | .array items => itemsDepth items + 1
  | .object fields => fieldsDepth fields + 1
  | _ => 0

/-- The levels of the deepest item. -/
def itemsDepth : List Json → Nat
  | [] => 0
  | v :: vs => max (depth v) (itemsDepth vs)

/-- The levels of the deepest field. -/
def fieldsDepth : List (String × Json) → Nat
  | [] => 0
  | (_, v) :: fs => max (depth v) (fieldsDepth fs)
end

/-- Items are as deep as the deepest one of them. -/
theorem itemsDepth_le_iff {vs : List Json} {n : Nat} :
    itemsDepth vs ≤ n ↔ ∀ v ∈ vs, v.depth ≤ n := by
  induction vs with
  | nil => simp [itemsDepth]
  | cons v vs ih => rw [itemsDepth, Nat.max_le, ih, List.forall_mem_cons]

theorem fieldsDepth_le_iff {fs : List (String × Json)} {n : Nat} :
    fieldsDepth fs ≤ n ↔ ∀ f ∈ fs, f.2.depth ≤ n := by
  induction fs with
  | nil => simp [fieldsDepth]
  | cons f fs ih => rw [fieldsDepth, Nat.max_le, ih, List.forall_mem_cons]

/-! ## Reading -/

namespace Source

theorem depth_ofDouble (d : Double) : (ofDouble d).depth = 0 := by
  unfold ofDouble
  split <;> rfl

theorem depth_ofNat (n : Nat) : (ofNat n).depth = 0 := by
  unfold ofNat
  dsimp only
  split
  · rfl
  · split <;> rfl

theorem depth_ofMagnitude (negative : Bool) (n : Nat) : (ofMagnitude negative n).depth = 0 := by
  unfold ofMagnitude
  split
  · split
    · rfl
    · exact depth_ofDouble _
  · exact depth_ofNat n

/-- A number has no depth, in whichever form it is kept. -/
theorem depth_double {negative : Bool} {n : Nat} {e : Int} {v : Json}
    (h : NumberParts.value.double negative n e = .ok v) : v.depth = 0 := by
  unfold NumberParts.value.double at h
  split at h
  · cases h
    exact depth_ofDouble _
  · cases h

/-- Numbers open no level, however they are read. -/
theorem depth_numberValue {parts : NumberParts} {v : Json} (h : parts.value = .ok v) :
    v.depth = 0 := by
  unfold NumberParts.value at h
  dsimp only at h
  -- digits alone make a whole number if it fits; everything else makes a double
  split at h
  · split at h
    · cases h
      exact depth_ofMagnitude _ _
    · exact depth_double h
  · exact depth_double h

mutual
/-- No more levels are opened than may be. -/
theorem depth_le_of_value : ∀ {s : Source} {levels : Nat} {v : Json}, value levels s = .ok v →
    v.depth ≤ levels
  | .null, levels, v, h => by cases levels <;> cases h <;> exact Nat.zero_le _
  | .bool b, levels, v, h => by cases levels <;> cases h <;> exact Nat.zero_le _
  | .number parts, levels, v, h => by
    rw [value.eq_def] at h
    rw [depth_numberValue h]
    exact Nat.zero_le _
  | .text ps, levels, v, h => by
    rw [value.eq_def] at h
    obtain ⟨t, -, rfl⟩ := check_map_eq_ok.1 h
    exact Nat.zero_le _
  -- without a level left no array and no object is opened
  | .array ss, 0, v, h => nomatch h
  | .object fs, 0, v, h => nomatch h
  | .array ss, levels + 1, v, h => by
    obtain ⟨vs, hvs, rfl⟩ := check_map_eq_ok.1 h
    exact Nat.succ_le_succ (itemsDepth_le_of_itemValues hvs)
  | .object ss, levels + 1, v, h => by
    obtain ⟨fs, hfs, rfl⟩ := check_map_eq_ok.1 h
    exact Nat.succ_le_succ (fieldsDepth_le_of_fieldValues hfs)

/-- The items are on the same level. -/
theorem itemsDepth_le_of_itemValues : ∀ {ss : List Source} {levels : Nat} {vs : List Json},
    itemValues levels ss = .ok vs → itemsDepth vs ≤ levels
  | [], levels, vs, h => by
    rw [itemValues.eq_def] at h
    cases h
    exact Nat.zero_le _
  | s :: ss, levels, vs, h => by
    rw [itemValues] at h
    obtain ⟨v, hv, h⟩ := check_bind_eq_ok.1 h
    obtain ⟨us, hus, h⟩ := check_bind_eq_ok.1 h
    cases h
    exact Nat.max_le.2 ⟨depth_le_of_value hv, itemsDepth_le_of_itemValues hus⟩

/-- And so are the values of the fields. -/
theorem fieldsDepth_le_of_fieldValues : ∀ {ss : List (List Piece × Source)} {levels : Nat}
    {fs : List (String × Json)}, fieldValues levels ss = .ok fs → fieldsDepth fs ≤ levels
  | [], levels, fs, h => by
    rw [fieldValues.eq_def] at h
    cases h
    exact Nat.zero_le _
  | (ps, s) :: ss, levels, fs, h => by
    rw [fieldValues] at h
    obtain ⟨k, -, h⟩ := check_bind_eq_ok.1 h
    obtain ⟨v, hv, h⟩ := check_bind_eq_ok.1 h
    obtain ⟨us, hus, h⟩ := check_bind_eq_ok.1 h
    cases h
    exact Nat.max_le.2 ⟨depth_le_of_value hv, fieldsDepth_le_of_fieldValues hus⟩
end

end Source

/-! ## Normal forms -/

/-- A field that comes in adds no more levels than its value has. -/
theorem fieldsDepth_insertField_le (key : String) (value : Json) (fs : List (String × Json)) :
    fieldsDepth (insertField key value fs) ≤ max value.depth (fieldsDepth fs) := by
  induction fs with
  | nil => exact Nat.le_refl _
  | cons f fs ih =>
    obtain ⟨k, v⟩ := f
    rw [insertField]
    -- the field comes in front, replaces one, or goes on to the rest
    split
    · exact Nat.le_refl _
    · split <;> simp only [fieldsDepth] at ih ⊢ <;> omega

/-- Sorting fields adds no levels, as every field was there before. -/
theorem fieldsDepth_foldl_le (fs acc : List (String × Json)) :
    fieldsDepth (fs.foldl (fun acc (k, v) => insertField k v acc) acc)
      ≤ max (fieldsDepth acc) (fieldsDepth fs) := by
  induction fs generalizing acc with
  | nil => exact Nat.le_max_left _ _
  | cons f fs ih =>
    obtain ⟨k, v⟩ := f
    have hinsert := fieldsDepth_insertField_le k v acc
    have hrest := ih (insertField k v acc)
    calc fieldsDepth (fs.foldl (fun acc (k, v) => insertField k v acc) (insertField k v acc))
        ≤ max (fieldsDepth (insertField k v acc)) (fieldsDepth fs) := hrest
      _ ≤ max (fieldsDepth acc) (max v.depth (fieldsDepth fs)) := by omega

mutual
/-- A normal form has no more levels. It may have fewer: of fields with one key only the last is
kept. -/
theorem depth_normalize_le : ∀ (v : Json), v.normalize.depth ≤ v.depth
  | .array items => Nat.succ_le_succ (itemsDepth_normalize_le items)
  | .object fields => by
    have hsorted : fieldsDepth (sortFields (normalizeFields fields))
        ≤ max 0 (fieldsDepth (normalizeFields fields)) := fieldsDepth_foldl_le _ []
    have hfields := fieldsDepth_normalize_le fields
    simp only [normalize, depth]
    omega
  | .null | .bool _ | .number _ | .text _ => Nat.le_refl _

/-- Normal form makes no item deeper. -/
theorem itemsDepth_normalize_le : ∀ (vs : List Json),
    itemsDepth (normalizeItems vs) ≤ itemsDepth vs
  | [] => Nat.le_refl _
  | v :: vs => by
    have hv := depth_normalize_le v
    have hvs := itemsDepth_normalize_le vs
    simp only [normalizeItems, itemsDepth]
    omega

theorem fieldsDepth_normalize_le : ∀ (fs : List (String × Json)),
    fieldsDepth (normalizeFields fs) ≤ fieldsDepth fs
  | [] => Nat.le_refl _
  | (_, v) :: fs => by
    have hv := depth_normalize_le v
    have hfs := fieldsDepth_normalize_le fs
    simp only [normalizeFields, fieldsDepth]
    omega
end

end Rehearsal.Json

import Rehearsal.Proofs.Path.Legible
import Rehearsal.Proofs.Path.Positions

/-!
# Substituting leaves

`substitute` puts texts in the place of leaves, all at once, by a table from positions to texts; the
keys, the lengths of arrays and the nesting stay as they are. Main statements: setting one leaf of a
document after another is the same as extending the table (`set?_substitute`), a substitution looks
at the positions of leaves only (`substitute_congr`), and it changes no position
(`leaves_substitute`).
-/

namespace Rehearsal.Path

/-! ## Addressable documents -/

mutual
/-- Every key can be read from a path and stands once in its object, and the items of every array
can be counted in 64 bits. -/
def IsAddressable : Json → Prop
  | .array vs => vs.length ≤ 1 <<< 64 ∧ ItemsAddressable vs
  | .object fs => (fs.map (·.1)).Nodup ∧ FieldsAddressable fs
  | _ => True

/-- All items are addressable. -/
def ItemsAddressable : List Json → Prop
  | [] => True
  | v :: vs => IsAddressable v ∧ ItemsAddressable vs

/-- All values are addressable, and their keys can be read from a path. -/
def FieldsAddressable : List (String × Json) → Prop
  | [] => True
  | (k, v) :: fs => IsReadableKey k.toList ∧ IsAddressable v ∧ FieldsAddressable fs
end

mutual
/-- In an addressable document the position of every leaf can be read from its path. -/
theorem isReadable_of_mem_leaves : ∀ (v : Json), IsAddressable v →
    ∀ p ∈ leaves v, ∀ s ∈ p, s.IsReadable
  | .array (v :: vs), h, p, hp => isReadable_of_mem_items 0 (v :: vs) (by simpa using h.1) h.2 p hp
  | .object (f :: fs), h, p, hp => isReadable_of_mem_fields (f :: fs) h.2 p hp
  | .null, _, p, hp => by simp_all [leaves]
  | .bool _, _, p, hp => by simp_all [leaves]
  | .number _, _, p, hp => by simp_all [leaves]
  | .text _, _, p, hp => by simp_all [leaves]
  | .array [], _, p, hp => by simp_all [leaves]
  | .object [], _, p, hp => by simp_all [leaves]

/-- An index counts the items in front, and their number is limited. -/
theorem isReadable_of_mem_items : ∀ (i : Nat) (vs : List Json), i + vs.length ≤ 1 <<< 64 →
    ItemsAddressable vs → ∀ p ∈ leavesOfItems i vs, ∀ s ∈ p, s.IsReadable
  | _, [], _, _, p, hp => by simp [leavesOfItems] at hp
  | i, v :: vs, hi, h, p, hp => by
    rw [List.length_cons] at hi
    rw [leavesOfItems, List.mem_append, List.mem_map] at hp
    rcases hp with ⟨q, hq, rfl⟩ | hp
    · intro s hs
      rcases List.mem_cons.1 hs with rfl | hs
      · show i < 1 <<< 64
        omega
      · exact isReadable_of_mem_leaves v h.1 q hq s hs
    · exact isReadable_of_mem_items (i + 1) vs (by omega) h.2 p hp

/-- The keys of fields are legible. -/
theorem isReadable_of_mem_fields : ∀ (fs : List (String × Json)), FieldsAddressable fs →
    ∀ p ∈ leavesOfFields fs, ∀ s ∈ p, s.IsReadable
  | [], _, p, hp => by simp [leavesOfFields] at hp
  | (k, v) :: fs, h, p, hp => by
    rw [leavesOfFields, List.mem_append, List.mem_map] at hp
    rcases hp with ⟨q, hq, rfl⟩ | hp
    · intro s hs
      rcases List.mem_cons.1 hs with rfl | hs
      · exact h.1
      · exact isReadable_of_mem_leaves v h.2.1 q hq s hs
    · exact isReadable_of_mem_fields fs h.2.2 p hp
end

mutual
/-- In an addressable document no key stands twice. -/
theorem keysPairwise_of_isAddressable : ∀ (v : Json), IsAddressable v → v.KeysPairwise (· ≠ ·)
  | .array vs, h => itemsPairwise_of_itemsAddressable vs h.2
  | .object fs, h => ⟨h.1, fieldsPairwise_of_fieldsAddressable fs h.2⟩
  | .null, _ | .bool _, _ | .number _, _ | .text _, _ => trivial

/-- No key stands twice in an object among the items. -/
theorem itemsPairwise_of_itemsAddressable : ∀ (vs : List Json), ItemsAddressable vs →
    Json.ItemsPairwise (· ≠ ·) vs
  | [], _ => trivial
  | v :: vs, h => ⟨keysPairwise_of_isAddressable v h.1, itemsPairwise_of_itemsAddressable vs h.2⟩

theorem fieldsPairwise_of_fieldsAddressable : ∀ (fs : List (String × Json)), FieldsAddressable fs →
    Json.FieldsPairwise (· ≠ ·) fs
  | [], _ => trivial
  | (_, v) :: fs, h =>
    ⟨keysPairwise_of_isAddressable v h.2.1, fieldsPairwise_of_fieldsAddressable fs h.2.2⟩
end

/-- No position is listed twice. -/
theorem nodup_leaves (v : Json) (h : IsAddressable v) : (leaves v).Nodup :=
  nodup_leaves_of_keysPairwise (fun _ hne => hne rfl) (keysPairwise_of_isAddressable v h)

/-! ## Substitution -/

/-- Texts for positions. -/
abbrev Table := List Segment → Option String

/-- The part of a table below a segment. -/
def Table.below (f : Table) (s : Segment) : Table := fun p => f (s :: p)

/-- The table with a text for one more position. -/
def Table.assign (f : Table) (p : List Segment) (new : String) : Table :=
  fun q => if q = p then some new else f q

mutual
/-- The document with the leaves replaced that the table has a text for, all at once. -/
def substitute (f : Table) : Json → Json
  | .array (v :: vs) => .array (substituteItems f 0 (v :: vs))
  | .object (x :: fs) => .object (substituteFields f (x :: fs))
  | v => ((f []).map .text).getD v

/-- The items from the `i`-th one on, each with its part of the table. -/
def substituteItems (f : Table) (i : Nat) : List Json → List Json
  | [] => []
  | v :: vs => substitute (f.below (.index i)) v :: substituteItems f (i + 1) vs

/-- The fields, each with its part of the table. -/
def substituteFields (f : Table) : List (String × Json) → List (String × Json)
  | [] => []
  | (k, v) :: fs => (k, substitute (f.below (.field k)) v) :: substituteFields f fs
end

mutual
/-- A substitution looks at the positions of leaves only. -/
theorem substitute_congr : ∀ (v : Json) {f g : Table}, (∀ p ∈ leaves v, f p = g p) →
    substitute f v = substitute g v
  | .array (v :: vs), _, _, h => congrArg Json.array (substituteItems_congr 0 (v :: vs) h)
  | .object (x :: fs), _, _, h => congrArg Json.object (substituteFields_congr (x :: fs) h)
  | .null, _, _, h => by simp [substitute, h [] (by simp [leaves])]
  | .bool _, _, _, h => by simp [substitute, h [] (by simp [leaves])]
  | .number _, _, _, h => by simp [substitute, h [] (by simp [leaves])]
  | .text _, _, _, h => by simp [substitute, h [] (by simp [leaves])]
  | .array [], _, _, h => by simp [substitute, h [] (by simp [leaves])]
  | .object [], _, _, h => by simp [substitute, h [] (by simp [leaves])]

theorem substituteItems_congr : ∀ (i : Nat) (vs : List Json) {f g : Table},
    (∀ p ∈ leavesOfItems i vs, f p = g p) → substituteItems f i vs = substituteItems g i vs
  | _, [], _, _, _ => rfl
  | i, v :: vs, f, g, h => by
    rw [substituteItems, substituteItems]
    congr 1
    · exact substitute_congr v fun p hp => h _ (by simp [leavesOfItems, hp])
    · exact substituteItems_congr (i + 1) vs fun p hp => h p (by simp [leavesOfItems, hp])

theorem substituteFields_congr : ∀ (fs : List (String × Json)) {f g : Table},
    (∀ p ∈ leavesOfFields fs, f p = g p) → substituteFields f fs = substituteFields g fs
  | [], _, _, _ => rfl
  | (k, v) :: fs, f, g, h => by
    have hv : substitute (f.below (.field k)) v = substitute (g.below (.field k)) v :=
      substitute_congr v fun p hp => h _ (by simp [leavesOfFields, hp])
    rw [substituteFields, substituteFields, hv]
    congr 1
    exact substituteFields_congr fs fun p hp => h p (by simp [leavesOfFields, hp])
end

mutual
/-- Without texts nothing is replaced. -/
theorem substitute_none : ∀ (v : Json), substitute (fun _ => none) v = v
  | .array (v :: vs) => congrArg Json.array (substituteItems_none 0 (v :: vs))
  | .object (x :: fs) => congrArg Json.object (substituteFields_none (x :: fs))
  | .null => rfl
  | .bool _ => rfl
  | .number _ => rfl
  | .text _ => rfl
  | .array [] => rfl
  | .object [] => rfl

theorem substituteItems_none : ∀ (i : Nat) (vs : List Json),
    substituteItems (fun _ => none) i vs = vs
  | _, [] => rfl
  | i, v :: vs => by
    show substitute (fun _ => none) v :: substituteItems (fun _ => none) (i + 1) vs = v :: vs
    rw [substitute_none, substituteItems_none]

theorem substituteFields_none : ∀ (fs : List (String × Json)),
    substituteFields (fun _ => none) fs = fs
  | [] => rfl
  | (k, v) :: fs => by
    show (k, substitute (fun _ => none) v) :: substituteFields (fun _ => none) fs = (k, v) :: fs
    rw [substitute_none, substituteFields_none]
end

/-! ## What a substitution leaves as it is -/

/-- No item is added or lost. -/
theorem length_substituteItems (f : Table) (i : Nat) (vs : List Json) :
    (substituteItems f i vs).length = vs.length := by
  induction vs generalizing i with
  | nil => rfl
  | cons v vs ih => rw [substituteItems, List.length_cons, ih, List.length_cons]

/-- Keys stay as they are, in their order. -/
theorem keys_substituteFields (f : Table) (fs : List (String × Json)) :
    (substituteFields f fs).map (·.1) = fs.map (·.1) := by
  induction fs with
  | nil => rfl
  | cons x fs ih => rw [substituteFields, List.map_cons, ih, List.map_cons]

/-- What stands in the place of a leaf is a leaf. -/
theorem leaves_getD_text {v : Json} (h : leaves v = [[]]) (new : Option String) :
    leaves ((new.map .text).getD v) = [[]] := by
  cases new with
  | none => exact h
  | some t => rfl

mutual
/-- The positions of the leaves stay, and with them keys, lengths and nesting. -/
theorem leaves_substitute : ∀ (f : Table) (v : Json), leaves (substitute f v) = leaves v
  | f, .array (v :: vs) => leavesOfItems_substituteItems f 0 (v :: vs)
  | f, .object (x :: fs) => leavesOfFields_substituteFields f (x :: fs)
  | _, .null => leaves_getD_text rfl _
  | _, .bool _ => leaves_getD_text rfl _
  | _, .number _ => leaves_getD_text rfl _
  | _, .text _ => leaves_getD_text rfl _
  | _, .array [] => leaves_getD_text rfl _
  | _, .object [] => leaves_getD_text rfl _

theorem leavesOfItems_substituteItems : ∀ (f : Table) (i : Nat) (vs : List Json),
    leavesOfItems i (substituteItems f i vs) = leavesOfItems i vs
  | _, _, [] => rfl
  | f, i, v :: vs => by
    rw [substituteItems, leavesOfItems, leaves_substitute, leavesOfItems_substituteItems f (i + 1),
      leavesOfItems]

theorem leavesOfFields_substituteFields : ∀ (f : Table) (fs : List (String × Json)),
    leavesOfFields (substituteFields f fs) = leavesOfFields fs
  | _, [] => rfl
  | f, (k, v) :: fs => by
    rw [substituteFields, leavesOfFields, leaves_substitute, leavesOfFields_substituteFields f fs,
      leavesOfFields]
end

/-- In the place of a leaf only the table decides, and the later table first. -/
theorem substitute_getD_text (f g : Table) {v : Json}
    (h : ∀ f : Table, substitute f v = ((f []).map .text).getD v) :
    substitute f (((g []).map .text).getD v)
      = (((f []).or (g [])).map .text).getD v := by
  cases hg : g [] with
  | none => simp [h]
  | some t => cases hf : f [] <;> simp [substitute, hf]

mutual
/-- Of two substitutions one after the other the later one counts. -/
theorem substitute_substitute : ∀ (f g : Table) (v : Json),
    substitute f (substitute g v) = substitute (fun p => (f p).or (g p)) v
  | f, g, .array (v :: vs) => congrArg Json.array (substituteItems_substituteItems f g 0 (v :: vs))
  | f, g, .object (x :: fs) =>
    congrArg Json.object (substituteFields_substituteFields f g (x :: fs))
  | f, g, .null => substitute_getD_text f g fun _ => rfl
  | f, g, .bool _ => substitute_getD_text f g fun _ => rfl
  | f, g, .number _ => substitute_getD_text f g fun _ => rfl
  | f, g, .text _ => substitute_getD_text f g fun _ => rfl
  | f, g, .array [] => substitute_getD_text f g fun _ => rfl
  | f, g, .object [] => substitute_getD_text f g fun _ => rfl

/-- Items are numbered the same in both turns. -/
theorem substituteItems_substituteItems : ∀ (f g : Table) (i : Nat) (vs : List Json),
    substituteItems f i (substituteItems g i vs) = substituteItems (fun p => (f p).or (g p)) i vs
  | _, _, _, [] => rfl
  | f, g, i, v :: vs => by
    rw [substituteItems, substituteItems, substitute_substitute,
      substituteItems_substituteItems f g (i + 1), substituteItems]
    rfl

theorem substituteFields_substituteFields : ∀ (f g : Table) (fs : List (String × Json)),
    substituteFields f (substituteFields g fs) = substituteFields (fun p => (f p).or (g p)) fs
  | _, _, [] => rfl
  | f, g, (k, v) :: fs => by
    rw [substituteFields, substituteFields, substitute_substitute,
      substituteFields_substituteFields f g fs, substituteFields]
    rfl
end

/-- Substituting once more changes nothing. -/
theorem substitute_idem (f : Table) (v : Json) :
    substitute f (substitute f v) = substitute f v := by
  rw [substitute_substitute]
  simp

/-- What stands in the place of a leaf is addressable if the leaf is. -/
theorem isAddressable_getD_text {v : Json} (h : IsAddressable v) (new : Option String) :
    IsAddressable ((new.map .text).getD v) := by
  cases new with
  | none => exact h
  | some t => exact trivial

mutual
/-- A text in the place of a leaf takes no key and no index. -/
theorem isAddressable_substitute : ∀ (f : Table) (v : Json), IsAddressable v →
    IsAddressable (substitute f v)
  | f, .array (v :: vs), h =>
    ⟨(length_substituteItems f 0 (v :: vs)).symm ▸ h.1, itemsAddressable_substitute f 0 _ h.2⟩
  | f, .object (x :: fs), h =>
    ⟨(keys_substituteFields f (x :: fs)).symm ▸ h.1, fieldsAddressable_substitute f _ h.2⟩
  | _, .null, h => isAddressable_getD_text h _
  | _, .bool _, h => isAddressable_getD_text h _
  | _, .number _, h => isAddressable_getD_text h _
  | _, .text _, h => isAddressable_getD_text h _
  | _, .array [], h => isAddressable_getD_text h _
  | _, .object [], h => isAddressable_getD_text h _

theorem itemsAddressable_substitute : ∀ (f : Table) (i : Nat) (vs : List Json),
    ItemsAddressable vs → ItemsAddressable (substituteItems f i vs)
  | _, _, [], _ => trivial
  | f, i, v :: vs, h =>
    ⟨isAddressable_substitute _ v h.1, itemsAddressable_substitute f (i + 1) vs h.2⟩

theorem fieldsAddressable_substitute : ∀ (f : Table) (fs : List (String × Json)),
    FieldsAddressable fs → FieldsAddressable (substituteFields f fs)
  | _, [], _ => trivial
  | f, (_, v) :: fs, h =>
    ⟨h.1, isAddressable_substitute _ v h.2.1, fieldsAddressable_substitute f fs h.2.2⟩
end

/-! ## Setting one leaf -/

/-- One more position below a segment is one more position in the part below it. -/
theorem below_assign (f : Table) (s : Segment) (p : List Segment) (new : String) :
    (f.assign (s :: p) new).below s = (f.below s).assign p new := by
  funext q
  simp [Table.below, Table.assign]

/-- Setting one position leaves the others. -/
theorem assign_of_ne {f : Table} {p q : List Segment} {new : String} (h : q ≠ p) :
    f.assign p new q = f q := if_neg h

mutual
/-- Setting a leaf of a substituted document extends the substitution. -/
theorem set?_substitute : ∀ (v : Json), IsAddressable v → ∀ (f : Table) (p : List Segment),
    p ∈ leaves v → ∀ (new : String),
      set? p (.text new) (substitute f v) = some (substitute (f.assign p new) v)
  | .array (v :: vs), h, f, p, hp, new => by
    obtain ⟨j, q, w, w', rfl, hw, hset, hs⟩ := set?_substituteItems 0 (v :: vs) h.2 f p hp new
    rw [Nat.zero_add] at hs ⊢
    simp only [substitute, set?, step?, hw, Option.bind_some, hset, Option.map_some, replaceStep,
      hs]
  | .object (x :: fs), h, f, p, hp, new => by
    obtain ⟨k, q, w, w', rfl, hw, hset, hs⟩ :=
      set?_substituteFields (x :: fs) h.1 h.2 f p hp new
    simp only [substitute, set?, step?, hw, Option.bind_some, hset, Option.map_some, replaceStep,
      hs]
  | .null, _, f, p, hp, new => by simp_all [leaves, set?, substitute, Table.assign]
  | .bool _, _, f, p, hp, new => by simp_all [leaves, set?, substitute, Table.assign]
  | .number _, _, f, p, hp, new => by simp_all [leaves, set?, substitute, Table.assign]
  | .text _, _, f, p, hp, new => by simp_all [leaves, set?, substitute, Table.assign]
  | .array [], _, f, p, hp, new => by simp_all [leaves, set?, substitute, Table.assign]
  | .object [], _, f, p, hp, new => by simp_all [leaves, set?, substitute, Table.assign]

/-- The leaf is in one of the items, and setting it changes that item only. -/
theorem set?_substituteItems : ∀ (i : Nat) (vs : List Json), ItemsAddressable vs →
    ∀ (f : Table) (p : List Segment), p ∈ leavesOfItems i vs → ∀ (new : String),
      ∃ j q w w', p = .index (i + j) :: q ∧ (substituteItems f i vs)[j]? = some w
        ∧ set? q (.text new) w = some w'
        ∧ (substituteItems f i vs).set j w' = substituteItems (f.assign p new) i vs
  | _, [], _, _, p, hp, _ => by simp [leavesOfItems] at hp
  | i, v :: vs, h, f, p, hp, new => by
    rw [leavesOfItems, List.mem_append, List.mem_map] at hp
    rcases hp with ⟨q, hq, rfl⟩ | hp
    · -- the leaf is in the first item, and no other item has its position
      have hset := set?_substitute v h.1 (f.below (.index i)) q hq new
      refine ⟨0, q, _, _, rfl, rfl, hset, ?_⟩
      rw [substituteItems, List.set_cons_zero, substituteItems, below_assign]
      congr 1
      apply substituteItems_congr
      intro r hr
      obtain ⟨j, r', -, rfl, -, -⟩ := mem_leavesOfItems.1 hr
      refine (assign_of_ne ?_).symm
      simp only [ne_eq, List.cons.injEq, Segment.index.injEq, not_and]
      omega
    · -- the leaf is further behind, and the first item stays as it is
      obtain ⟨j, q, w, w', rfl, hw, hset, hs⟩ :=
        set?_substituteItems (i + 1) vs h.2 f p hp new
      refine ⟨j + 1, q, w, w', by rw [Nat.add_right_comm, Nat.add_assoc], hw, hset, ?_⟩
      rw [substituteItems, List.set_cons_succ, hs, substituteItems]
      congr 1
      apply substitute_congr
      intro r _
      show f (.index i :: r) = f.assign _ new (.index i :: r)
      refine (assign_of_ne ?_).symm
      simp only [ne_eq, List.cons.injEq, Segment.index.injEq, not_and]
      omega

/-- The leaf is in one of the fields, and setting it changes that field only. -/
theorem set?_substituteFields : ∀ (fs : List (String × Json)), (fs.map (·.1)).Nodup →
    FieldsAddressable fs → ∀ (f : Table) (p : List Segment), p ∈ leavesOfFields fs →
      ∀ (new : String), ∃ k q w w', p = .field k :: q
        ∧ Json.field? k (substituteFields f fs) = some w ∧ set? q (.text new) w = some w'
        ∧ replaceField k w' (substituteFields f fs) = substituteFields (f.assign p new) fs
  | [], _, _, _, p, hp, _ => by simp [leavesOfFields] at hp
  | (k, v) :: fs, hn, h, f, p, hp, new => by
    rw [List.map_cons, List.nodup_cons] at hn
    rw [leavesOfFields, List.mem_append, List.mem_map] at hp
    rcases hp with ⟨q, hq, rfl⟩ | hp
    · -- the leaf is in the first field, whose key stands in no other field
      have hset := set?_substitute v h.2.1 (f.below (.field k)) q hq new
      refine ⟨k, q, _, _, rfl, by rw [substituteFields, Json.field?, if_pos rfl], hset, ?_⟩
      rw [substituteFields, replaceField, if_pos rfl, substituteFields, below_assign]
      congr 1
      apply substituteFields_congr
      intro r hr
      obtain ⟨l, r', w, rfl, hl, -⟩ := mem_leavesOfFields.1 hr
      refine (assign_of_ne ?_).symm
      simp only [ne_eq, List.cons.injEq, Segment.field.injEq, not_and]
      rintro rfl
      exact absurd (List.mem_map_of_mem hl) hn.1
    · -- the leaf is further behind, under another key
      obtain ⟨l, q, w, w', rfl, hw, hset, hs⟩ :=
        set?_substituteFields fs hn.2 h.2.2 f p hp new
      obtain ⟨l', q', w'', he, hl, -⟩ := mem_leavesOfFields.1 hp
      obtain rfl : l = l' := by simpa using (List.cons.inj he).1
      have hkl : k ≠ l := by
        rintro rfl
        exact hn.1 (List.mem_map.2 ⟨_, hl, rfl⟩)
      refine ⟨l, q, w, w', rfl, by rw [substituteFields, Json.field?, if_neg hkl, hw], hset, ?_⟩
      have hv : substitute ((f.assign (.field l :: q) new).below (.field k)) v
          = substitute (f.below (.field k)) v := by
        apply substitute_congr
        intro r _
        refine assign_of_ne ?_
        simp [hkl]
      rw [substituteFields, replaceField, if_neg hkl, hs, substituteFields, hv]
end

end Rehearsal.Path

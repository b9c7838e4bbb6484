import Rehearsal.Proofs.Path.Leaves
import Rehearsal.Proofs.Json.Normal
import Mathlib.Data.List.Lex

/-!
# Positions in document order

Where no key stands twice in an object, the listed positions are those that lead to a leaf
(`mem_leaves_iff`), and where the keys of every object are in order, so are the positions: of two
of them, the one that turns off to an earlier field or item comes first (`pairwise_leaves`).
-/

namespace Rehearsal

/-! ## Ordered documents -/

namespace Json

/-- A scalar or an empty container. -/
def IsLeaf : Json → Prop
  | .array vs => vs = []
  | .object fs => fs = []
  | _ => True

mutual
/-- The keys of every object stand in `r`, each to all those after it. -/
def KeysPairwise (r : String → String → Prop) : Json → Prop
  | .array vs => ItemsPairwise r vs
  | .object fs => (fs.map (·.1)).Pairwise r ∧ FieldsPairwise r fs
  | _ => True

def ItemsPairwise (r : String → String → Prop) : List Json → Prop
  | [] => True
  | v :: vs => KeysPairwise r v ∧ ItemsPairwise r vs

def FieldsPairwise (r : String → String → Prop) : List (String × Json) → Prop
  | [] => True
  | (_, v) :: fs => KeysPairwise r v ∧ FieldsPairwise r fs
end

mutual
/-- In a document in normal form the keys of every object are sorted. -/
theorem keysPairwise_of_isNormal : ∀ (v : Json), v.IsNormal → v.KeysPairwise (· < ·)
  | .array vs, h => itemsPairwise_of_itemsNormal vs h
  | .object fs, h => ⟨h.1, fieldsPairwise_of_fieldsNormal fs h.2⟩
  | .null, _ | .bool _, _ | .number _, _ | .text _, _ => trivial

theorem itemsPairwise_of_itemsNormal : ∀ (vs : List Json), ItemsNormal vs →
    ItemsPairwise (· < ·) vs
  | [], _ => trivial
  | v :: vs, h => ⟨keysPairwise_of_isNormal v h.1, itemsPairwise_of_itemsNormal vs h.2⟩

theorem fieldsPairwise_of_fieldsNormal : ∀ (fs : List (String × Json)), FieldsNormal fs →
    FieldsPairwise (· < ·) fs
  | [], _ => trivial
  | (_, v) :: fs, h => ⟨keysPairwise_of_isNormal v h.1, fieldsPairwise_of_fieldsNormal fs h.2⟩
end

section
variable {r : String → String → Prop}

/-- The items have their keys in order. -/
theorem keysPairwise_of_mem_items {vs : List Json} (h : ItemsPairwise r vs) :
    ∀ v ∈ vs, KeysPairwise r v := by
  induction vs with
  | nil => simp
  | cons v vs ih =>
    intro w hw
    rcases List.mem_cons.1 hw with rfl | hw
    · exact h.1
    · exact ih h.2 w hw

/-- The values of the fields have their keys in order. -/
theorem keysPairwise_of_mem_fields {fs : List (String × Json)} (h : FieldsPairwise r fs) :
    ∀ f ∈ fs, KeysPairwise r f.2 := by
  induction fs with
  | nil => simp
  | cons f fs ih =>
    obtain ⟨k, v⟩ := f
    intro g hg
    rcases List.mem_cons.1 hg with rfl | hg
    · exact h.1
    · exact ih h.2 g hg

/-- Where no key stands twice, a field is found under its key. -/
theorem field?_eq_some_iff (hr : ∀ k, ¬ r k k) {fs : List (String × Json)}
    (h : (fs.map (·.1)).Pairwise r) {k : String} {w : Json} :
    field? k fs = some w ↔ (k, w) ∈ fs := by
  induction fs with
  | nil => simp [field?]
  | cons f fs ih =>
    obtain ⟨l, v⟩ := f
    obtain ⟨hl, hfs⟩ := List.pairwise_cons.1 h
    rw [field?, List.mem_cons]
    split
    · next hk =>
      subst hk
      -- the key does not stand among the later ones again
      have hnot : (l, w) ∉ fs := fun hw => hr l (hl l (List.mem_map_of_mem hw))
      simp [hnot, eq_comm]
    · next hk => simp [ih hfs, Ne.symm hk]

end

end Json

namespace Path

/-! ## Which positions are listed -/

/-- The position of an item's leaf is the item's index and then a position in the item. -/
theorem mem_leavesOfItems {i : Nat} {vs : List Json} {p : List Segment} :
    p ∈ leavesOfItems i vs ↔ ∃ j q w, p = .index (i + j) :: q ∧ vs[j]? = some w ∧ q ∈ leaves w := by
  induction vs generalizing i with
  | nil => simp [leavesOfItems]
  | cons v vs ih =>
    rw [leavesOfItems, List.mem_append, List.mem_map, ih]
    constructor
    · rintro (⟨q, hq, rfl⟩ | ⟨j, q, w, rfl, hw, hq⟩)
      · exact ⟨0, q, v, rfl, rfl, hq⟩
      · exact ⟨j + 1, q, w, by rw [Nat.add_right_comm, Nat.add_assoc], hw, hq⟩
    · rintro ⟨j, q, w, rfl, hw, hq⟩
      cases j with
      | zero =>
        cases hw
        exact .inl ⟨q, hq, rfl⟩
      | succ j => exact .inr ⟨j, q, w, by rw [Nat.add_right_comm, Nat.add_assoc], hw, hq⟩

/-- The position of a field's leaf is the field's key and then a position in the field. -/
theorem mem_leavesOfFields {fs : List (String × Json)} {p : List Segment} :
    p ∈ leavesOfFields fs ↔ ∃ k q w, p = .field k :: q ∧ (k, w) ∈ fs ∧ q ∈ leaves w := by
  induction fs with
  | nil => simp [leavesOfFields]
  | cons f fs ih =>
    obtain ⟨l, v⟩ := f
    rw [leavesOfFields, List.mem_append, List.mem_map, ih]
    constructor
    · rintro (⟨q, hq, rfl⟩ | ⟨k, q, w, rfl, hw, hq⟩)
      · exact ⟨l, q, v, rfl, List.mem_cons_self, hq⟩
      · exact ⟨k, q, w, rfl, List.mem_cons_of_mem _ hw, hq⟩
    · rintro ⟨k, q, w, rfl, hw, hq⟩
      rcases List.mem_cons.1 hw with he | hw
      · cases he
        exact .inl ⟨q, hq, rfl⟩
      · exact .inr ⟨k, q, w, rfl, hw, hq⟩

section
variable {r : String → String → Prop}

/-- The document itself is listed if there is nothing in it. -/
theorem nil_mem_leaves_iff {v : Json} : [] ∈ leaves v ↔ v.IsLeaf := by
  cases v with
  | array vs => cases vs <;> simp [leaves, Json.IsLeaf, mem_leavesOfItems]
  | object fs => cases fs <;> simp [leaves, Json.IsLeaf, mem_leavesOfFields]
  | _ => simp [leaves, Json.IsLeaf]

/-- The value one step away has its keys in order as well. -/
theorem keysPairwise_of_step? (hr : ∀ k, ¬ r k k) {v w : Json} (h : v.KeysPairwise r)
    {s : Segment} (hw : step? s v = some w) : w.KeysPairwise r := by
  cases v with
  | array vs =>
    cases s with
    | field k => cases hw
    | index i => exact Json.keysPairwise_of_mem_items h w (List.mem_of_getElem? hw)
  | object fs =>
    cases s with
    | field k =>
      exact Json.keysPairwise_of_mem_fields h.2 (k, w) ((Json.field?_eq_some_iff hr h.1).1 hw)
    | index i => cases hw
  | _ => cases s <;> cases hw

/-- A longer position is listed if it leads one step down, to a listed position of the value there.
-/
theorem cons_mem_leaves_iff (hr : ∀ k, ¬ r k k) {v : Json} (h : v.KeysPairwise r) {s : Segment}
    {p : List Segment} : s :: p ∈ leaves v ↔ ∃ w, step? s v = some w ∧ p ∈ leaves w := by
  cases v with
  | array vs =>
    have hitems : s :: p ∈ leaves (.array vs) ↔ s :: p ∈ leavesOfItems 0 vs := by
      cases vs <;> simp [leaves, leavesOfItems]
    rw [hitems, mem_leavesOfItems]
    cases s <;> simp [step?]
  | object fs =>
    have hfields : s :: p ∈ leaves (.object fs) ↔ s :: p ∈ leavesOfFields fs := by
      cases fs <;> simp [leaves, leavesOfFields]
    rw [hfields, mem_leavesOfFields]
    cases s <;> simp [step?, Json.field?_eq_some_iff hr h.1]
  | _ => cases s <;> simp [leaves, step?]

/-- Where no key stands twice in an object, the positions that are listed are those that lead to a
leaf. -/
theorem mem_leaves_iff (hr : ∀ k, ¬ r k k) {v : Json} (h : v.KeysPairwise r) {p : List Segment} :
    p ∈ leaves v ↔ ∃ w, get? p v = some w ∧ w.IsLeaf := by
  induction p generalizing v with
  | nil => simp [nil_mem_leaves_iff, get?]
  | cons s p ih =>
    rw [cons_mem_leaves_iff hr h, get?]
    cases hw : step? s v with
    | none => simp
    | some w => simpa using ih (keysPairwise_of_step? hr h hw)

/-! ## In which order they are listed -/

/-- The first segment turns off to an earlier field or item of the same value. -/
def Segment.Precedes (r : String → String → Prop) : Segment → Segment → Prop
  | .field k, .field l => r k l
  | .index i, .index j => i < j
  | _, _ => False

/-- Positions behind one and the same segment are in the order of their rests. -/
theorem pairwise_map_cons {s : Segment} {ps : List (List Segment)}
    (h : ps.Pairwise (List.Lex (Segment.Precedes r))) :
    (ps.map (s :: ·)).Pairwise (List.Lex (Segment.Precedes r)) :=
  List.Pairwise.map _ (fun _ _ => .cons) h

mutual
/-- Where the keys of every object are in order, so are the positions. -/
theorem pairwise_leaves : ∀ (v : Json), v.KeysPairwise r →
    (leaves v).Pairwise (List.Lex (Segment.Precedes r))
  | .array (v :: vs), h => pairwise_leavesOfItems 0 (v :: vs) h
  | .object (f :: fs), h => pairwise_leavesOfFields (f :: fs) h.1 h.2
  | .null, _ | .bool _, _ | .number _, _ | .text _, _ | .array [], _ | .object [], _ =>
    List.pairwise_singleton _ _

theorem pairwise_leavesOfItems : ∀ (i : Nat) (vs : List Json), Json.ItemsPairwise r vs →
    (leavesOfItems i vs).Pairwise (List.Lex (Segment.Precedes r))
  | _, [], _ => .nil
  | i, v :: vs, h => by
    rw [leavesOfItems, List.pairwise_append]
    refine ⟨pairwise_map_cons (pairwise_leaves v h.1), pairwise_leavesOfItems (i + 1) vs h.2, ?_⟩
    intro p hp q hq
    obtain ⟨p', -, rfl⟩ := List.mem_map.1 hp
    obtain ⟨j, q', w, rfl, -, -⟩ := mem_leavesOfItems.1 hq
    -- they part at the first segment, with the smaller index in front
    refine .rel ?_
    show i < i + 1 + j
    omega

theorem pairwise_leavesOfFields : ∀ (fs : List (String × Json)), (fs.map (·.1)).Pairwise r →
    Json.FieldsPairwise r fs → (leavesOfFields fs).Pairwise (List.Lex (Segment.Precedes r))
  | [], _, _ => .nil
  | (k, v) :: fs, hr, h => by
    obtain ⟨hk, hfs⟩ := List.pairwise_cons.1 hr
    rw [leavesOfFields, List.pairwise_append]
    refine ⟨pairwise_map_cons (pairwise_leaves v h.1), pairwise_leavesOfFields fs hfs h.2, ?_⟩
    intro p hp q hq
    obtain ⟨p', -, rfl⟩ := List.mem_map.1 hp
    obtain ⟨l, q', w, rfl, hw, -⟩ := mem_leavesOfFields.1 hq
    exact .rel (hk l (List.mem_map_of_mem hw))
end

/-- Where no key stands twice in an object, no position is listed twice. -/
theorem nodup_leaves_of_keysPairwise (hr : ∀ k, ¬ r k k) {v : Json} (h : v.KeysPairwise r) :
    (leaves v).Nodup := by
  have hne : ∀ s t : Segment, s.Precedes r t → s ≠ t := by
    rintro s t hst rfl
    cases s with
    | field k => exact hr k hst
    | index i => exact Nat.lt_irrefl i hst
  exact (pairwise_leaves v h).imp fun hlt => List.Lex.to_ne (List.Lex.imp hne _ _ hlt)

end

end Path
end Rehearsal

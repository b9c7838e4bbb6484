import Rehearsal.Proofs.Path.Loss
import Rehearsal.Proofs.Path.Positions

/-!
# From leaf paths back to leaves

A leaf path leads back to its leaf if the position of the leaf is legible. Keys may stand in the
way: the path of the one leaf of `{"a.b": 1}` is read as two fields, one in the other. Main
statement: the paths that are listed are read as the positions of all leaves below the root, in
document order, exactly if all these positions are legible (`leafPaths_lead_back`).
-/

namespace Rehearsal.Path

/-! ## Listed positions -/

theorem mem_properLeaves_iff {v : Json} (h : v.IsNormal) {p : List Segment} :
    p ∈ properLeaves v ↔ p ≠ [] ∧ ∃ leaf, get? p v = some leaf ∧ leaf.IsLeaf := by
  rw [properLeaves, List.mem_filter,
    mem_leaves_iff String.lt_irrefl (Json.keysPairwise_of_isNormal v h), and_comm]
  simp

theorem pairwise_properLeaves {v : Json} (h : v.IsNormal) :
    (properLeaves v).Pairwise (List.Lex (Segment.Precedes (· < ·))) :=
  (pairwise_leaves v (Json.keysPairwise_of_isNormal v h)).filter _

theorem nodup_properLeaves {v : Json} (h : v.IsNormal) : (properLeaves v).Nodup :=
  (nodup_leaves_of_keysPairwise String.lt_irrefl (Json.keysPairwise_of_isNormal v h)).filter _

/-! ## Listed paths -/

/-- A leaf below the root has a path if its position is legible. -/
theorem mem_leafPaths {v : Json} {p : List Segment} (h : p ∈ properLeaves v) (hp : IsLegible p) :
    write p ∈ leafPaths v := by
  have hne : p ≠ [] := by simpa using (List.mem_filter.1 h).2
  rw [leafPaths_eq]
  refine List.mem_map_of_mem (List.mem_filter.2 ⟨h, ?_⟩)
  simpa using hp.exists_ne hne

/-- Where the listed paths are read as all positions, there is one path for each position. -/
theorem leafPaths_eq_map_write_of_parse {v : Json}
    (h : (leafPaths v).map parse = properLeaves v) : leafPaths v = (properLeaves v).map write := by
  have hlength : (leafPaths v).length = (properLeaves v).length := by
    rw [← h, List.length_map]
  rw [leafPaths_eq, List.length_map] at hlength
  rw [leafPaths_eq, List.filter_sublist.eq_of_length hlength]

/-- The listed paths are read as the positions of the leaves below the root exactly if all these
positions are legible. -/
theorem map_parse_leafPaths_iff {v : Json} : (leafPaths v).map parse = properLeaves v
    ↔ ∀ p ∈ properLeaves v, IsLegible p := by
  constructor
  · intro h p hp
    have hread : (properLeaves v).map (parse ∘ write) = (properLeaves v).map id := by
      rw [← List.map_map, ← leafPaths_eq_map_write_of_parse h, h, List.map_id]
    have hback := List.map_inj_left.1 hread p hp
    rw [Function.comp_apply, id] at hback
    exact parse_write_iff.1 hback
  · intro h
    have hread : ∀ p ∈ properLeaves v, (parse ∘ write) p = id p := by
      intro p hp
      rw [Function.comp_apply, parse_write_iff.2 (h p hp), id]
    rw [leafPaths_eq_map_write h, List.map_map, List.map_inj_left.2 hread, List.map_id]

/-- Legible positions are written differently. -/
theorem nodup_leafPaths {v : Json} (hv : v.IsNormal) (h : ∀ p ∈ properLeaves v, IsLegible p) :
    (leafPaths v).Nodup := by
  have hread := nodup_properLeaves hv
  rw [← map_parse_leafPaths_iff.2 h] at hread
  exact List.Pairwise.of_map parse (fun _ _ hne he => hne (congrArg parse he)) hread

/-! ## The way back -/

/-- In a document the positions of the leaves below the root are listed in document order, and the
leaf paths are their written forms, but for those of empty keys only. A position is read back from
its written form exactly if it is legible; then its path is listed and leads to its leaf. If all
positions are legible, each leaf has one path, and no two leaves have the same; and only then are
the listed paths read as the positions of the leaves. -/
theorem leafPaths_lead_back {document : Json} (h : document.IsNormal) :
    (∀ p, p ∈ properLeaves document ↔
        p ≠ [] ∧ ∃ leaf, get? p document = some leaf ∧ leaf.IsLeaf)
      ∧ (properLeaves document).Pairwise (List.Lex (Segment.Precedes (· < ·)))
      ∧ leafPaths document
        = ((properLeaves document).filter fun p => p.any (· ≠ .field "")).map write
      ∧ (∀ p, parse (write p) = p ↔ IsLegible p)
      ∧ (∀ p ∈ properLeaves document, IsLegible p → write p ∈ leafPaths document
        ∧ ∃ leaf, get? (parse (write p)) document = some leaf ∧ get? p document = some leaf
          ∧ leaf.IsLeaf)
      ∧ ((∀ p ∈ properLeaves document, IsLegible p) →
        leafPaths document = (properLeaves document).map write ∧ (leafPaths document).Nodup)
      ∧ ((leafPaths document).map parse = properLeaves document
        ↔ ∀ p ∈ properLeaves document, IsLegible p) := by
  have hmem : ∀ p, p ∈ properLeaves document ↔
      p ≠ [] ∧ ∃ leaf, get? p document = some leaf ∧ leaf.IsLeaf := fun _ => mem_properLeaves_iff h
  refine ⟨hmem, pairwise_properLeaves h, leafPaths_eq document, fun _ => parse_write_iff, ?_, ?_,
    map_parse_leafPaths_iff⟩
  · intro p hp hlegible
    obtain ⟨-, leaf, hget, hleaf⟩ := (hmem p).1 hp
    refine ⟨mem_leafPaths hp hlegible, leaf, ?_, hget, hleaf⟩
    rw [parse_write_iff.2 hlegible, hget]
  · intro hlegible
    exact ⟨leafPaths_eq_map_write hlegible, nodup_leafPaths h hlegible⟩

/-- A document with a blank, a `$` and brackets in its keys, all where a path can hold them. -/
def marked : Json :=
  .object [("a", .array [.object [(" b", .null), ("$c", .bool true)], .array []]),
    ("d]", .object [("[e", .text "x")])]

theorem leafPaths_lead_back_marked : marked.IsNormal
    ∧ (∀ p ∈ properLeaves marked, IsLegible p)
    ∧ leafPaths marked = ["a[0]. b", "a[0].$c", "a[1]", "d].[e"]
    ∧ (leafPaths marked).Nodup
    ∧ get? (parse "d].[e") marked = some (.text "x") := by
  have hnormal : marked.IsNormal := by
    simp only [marked, Json.IsNormal, Json.ItemsNormal, Json.FieldsNormal]
    decide
  have hlegible : ∀ p ∈ properLeaves marked, IsLegible p := by decide
  obtain ⟨-, -, -, -, hback, hall, -⟩ := leafPaths_lead_back hnormal
  obtain ⟨hpaths, hnodup⟩ := hall hlegible
  have hlisted : leafPaths marked = ["a[0]. b", "a[0].$c", "a[1]", "d].[e"] := by
    rw [hpaths]
    decide
  have hwrite : write [.field "d]", .field "[e"] = "d].[e" := by decide
  have hmem : [.field "d]", .field "[e"] ∈ properLeaves marked := by decide
  obtain ⟨-, leaf, hread, hget, -⟩ := hback _ hmem (hlegible _ hmem)
  have hleaf : get? [.field "d]", .field "[e"] marked = some (.text "x") := by
    simp [marked, get?, step?, Json.field?]
  rw [hwrite, ← hget, hleaf] at hread
  exact ⟨hnormal, hlegible, hlisted, hnodup, hread⟩

/-- A document with a dot in its one key. -/
def dotted : Json := .object [("a.b", .bool true)]

/-- A document whose one key is empty. -/
def nameless : Json := .object [("", .bool true)]

/-- The leaf behind a key with a dot has a path that leads nowhere, the leaf behind an empty key has
none. -/
theorem leafPaths_lead_astray : dotted.IsNormal ∧ leafPaths dotted = ["a.b"]
    ∧ get? [.field "a.b"] dotted = some (.bool true) ∧ get? (parse "a.b") dotted = none
    ∧ nameless.IsNormal ∧ leafPaths nameless = []
    ∧ get? [.field ""] nameless = some (.bool true) := by
  -- the same path is written for a field in another one
  have hlegible : IsLegible [.field "a", .field "b"] := by decide
  have hwrite : write [.field "a", .field "b"] = "a.b" := by decide
  refine ⟨?_, by decide, rfl, ?_, ?_, by decide, rfl⟩
  · simp [dotted, Json.IsNormal, Json.FieldsNormal]
  · rw [← hwrite, parse_write_of_isLegible hlegible]
    rfl
  · simp [nameless, Json.IsNormal, Json.FieldsNormal]

end Rehearsal.Path

import Rehearsal.Proofs.Path.Written

/-!
# The paths of leaves

A leaf of a document is found at a position, a list of segments. `leaves` lists the positions of all
leaves in document order, and `write` is the written form of a position. Main statement: the leaf
paths of a document are the written positions of its leaves, but for those below empty keys only
(`leafPaths_eq`).
-/

namespace Rehearsal.Path

/-! ## Positions -/

mutual
/-- The positions of the leaves of a document, in document order. -/
def leaves : Json → List (List Segment)
  | .array (v :: vs) => leavesOfItems 0 (v :: vs)
  | .object (f :: fs) => leavesOfFields (f :: fs)
  | _ => [[]]

def leavesOfItems (i : Nat) : List Json → List (List Segment)
  | [] => []
  | v :: vs => (leaves v).map (.index i :: ·) ++ leavesOfItems (i + 1) vs

def leavesOfFields : List (String × Json) → List (List Segment)
  | [] => []
  | (k, v) :: fs => (leaves v).map (.field k :: ·) ++ leavesOfFields fs
end

/-- The positions of the leaves but for the root, which has no path. -/
def properLeaves (document : Json) : List (List Segment) := (leaves document).filter (· ≠ [])

/-- The written form of a position behind a written path. -/
def writeBehind (path : List Char) : List Segment → List Char
  | [] => path
  | .field k :: ss => writeBehind (fieldText path k.toList) ss
  | .index i :: ss => writeBehind (itemText path i) ss

/-- The written form of a position. -/
def write (ss : List Segment) : String := String.ofList (writeBehind [] ss)

theorem leafPathsAt_of_leaf (path : List Char) :
    (if path.isEmpty then [] else [path])
      = (([[]] : List (List Segment)).map (writeBehind path)).filter (!·.isEmpty) := by
  cases path <;> rfl

mutual
theorem leafPathsAt_eq : ∀ (path : List Char) (v : Json),
    leafPathsAt path v = ((leaves v).map (writeBehind path)).filter (!·.isEmpty)
  | path, .array (v :: vs) => itemLeaves_eq path 0 (v :: vs)
  | path, .object (f :: fs) => fieldLeaves_eq path (f :: fs)
  | path, .null => leafPathsAt_of_leaf path
  | path, .bool _ => leafPathsAt_of_leaf path
  | path, .number _ => leafPathsAt_of_leaf path
  | path, .text _ => leafPathsAt_of_leaf path
  | path, .array [] => leafPathsAt_of_leaf path
  | path, .object [] => leafPathsAt_of_leaf path

theorem itemLeaves_eq : ∀ (path : List Char) (i : Nat) (vs : List Json),
    itemLeaves path i vs = ((leavesOfItems i vs).map (writeBehind path)).filter (!·.isEmpty)
  | _, _, [] => rfl
  | path, i, v :: vs => by
    rw [itemLeaves, leavesOfItems, leafPathsAt_eq, itemLeaves_eq path (i + 1) vs, List.map_append,
      List.filter_append, List.map_map]
    rfl

theorem fieldLeaves_eq : ∀ (path : List Char) (fs : List (String × Json)),
    fieldLeaves path fs = ((leavesOfFields fs).map (writeBehind path)).filter (!·.isEmpty)
  | _, [] => rfl
  | path, (k, v) :: fs => by
    rw [fieldLeaves, leavesOfFields, leafPathsAt_eq, fieldLeaves_eq path fs, List.map_append,
      List.filter_append, List.map_map]
    rfl
end

/-! ## Written positions -/

/-- The characters that a segment is written with, but for a dot in front. -/
def Segment.text : Segment → List Char
  | .field k => k.toList
  | .index i => indexText i

theorem itemText_eq (path : List Char) (i : Nat) : itemText path i = path ++ indexText i := by
  simp [itemText, indexText]

theorem writeBehind_append (path : List Char) (ss ts : List Segment) :
    writeBehind path (ss ++ ts) = writeBehind (writeBehind path ss) ts := by
  induction ss generalizing path with
  | nil => rfl
  | cons s ss ih => cases s <;> exact ih _

/-- The first segment of a position has nothing in front of it. -/
theorem writeBehind_nil_cons (s : Segment) (ss : List Segment) :
    writeBehind [] (s :: ss) = writeBehind s.text ss := by
  cases s <;> rfl

theorem writeBehind_singleton (path : List Char) (s : Segment) :
    ∃ dot, writeBehind path [s] = path ++ dot ++ s.text := by
  cases s with
  | field k =>
    cases path with
    | nil => exact ⟨[], by simp [writeBehind, fieldText, Segment.text]⟩
    | cons c path => exact ⟨['.'], by simp [writeBehind, fieldText, Segment.text]⟩
  | index i => exact ⟨[], by simp [writeBehind, itemText_eq, Segment.text]⟩

/-- What is written before stays in front. -/
theorem exists_writeBehind (path : List Char) (ss : List Segment) :
    ∃ rest, writeBehind path ss = path ++ rest := by
  induction ss generalizing path with
  | nil => exact ⟨[], by simp [writeBehind]⟩
  | cons s ss ih =>
    obtain ⟨dot, hdot⟩ := writeBehind_singleton path s
    obtain ⟨rest, hrest⟩ := ih (writeBehind path [s])
    rw [← List.singleton_append, writeBehind_append, hrest, hdot]
    exact ⟨dot ++ s.text ++ rest, by simp⟩

/-- Only a position of empty keys is written as the empty path. -/
theorem writeBehind_eq_nil_iff {path : List Char} {ss : List Segment} :
    writeBehind path ss = [] ↔ path = [] ∧ ∀ s ∈ ss, s = .field "" := by
  induction ss generalizing path with
  | nil => simp [writeBehind]
  | cons s ss ih =>
    cases s with
    | field k =>
      have hk : fieldText path k.toList = [] ↔ path = [] ∧ k = "" := by
        cases path <;> simp [fieldText]
      rw [writeBehind, ih, hk]
      simp [and_assoc]
    | index i => simp [writeBehind, ih, itemText]

/-- The leaf paths are the written positions of the leaves below the root, but for those below empty
keys only. -/
theorem leafPaths_eq (document : Json) : leafPaths document
    = ((properLeaves document).filter fun p => p.any (· ≠ .field "")).map write := by
  have hlisted : ∀ p : List Segment,
      (!(writeBehind [] p).isEmpty) = (p.any (· ≠ .field "") && decide (p ≠ [])) := by
    intro p
    rw [Bool.eq_iff_iff]
    cases p <;> simp [writeBehind_eq_nil_iff, Decidable.imp_iff_not_or]
  rw [leafPaths, leafPathsAt_eq, List.filter_map, List.map_map, properLeaves, List.filter_filter]
  exact congrArg (List.map write) (List.filter_congr fun p _ => hlisted p)

/-! ## Readable positions -/

/-- A key that can be read from a path. -/
structure IsReadableKey (k : List Char) : Prop where
  nonempty : k ≠ []
  noDot : '.' ∉ k
  noBracket : '[' ∉ k
  noDollar : k.head? ≠ some '$'
  noBlankAhead : ∀ c ∈ k.head?, Text.isBlank c = false
  noBlankBehind : ∀ c ∈ k.getLast?, Text.isBlank c = false

/-- A segment that can be read from a path. -/
def Segment.IsReadable : Segment → Prop
  | .field k => IsReadableKey k.toList
  | .index i => i < 1 <<< 64

namespace Segment.IsReadable

variable {s : Segment}

theorem text_ne_nil (h : s.IsReadable) : s.text ≠ [] := by
  cases s with
  | field k =>
    have hk : IsReadableKey k.toList := h
    exact hk.nonempty
  | index i => simp [Segment.text, indexText]

/-- A readable segment begins with no mark but a bracket. -/
theorem ahead (h : s.IsReadable) :
    ∀ c ∈ s.text.head?, c ≠ '$' ∧ c ≠ '.' ∧ Text.isBlank c = false := by
  intro c hc
  cases s with
  | field k =>
    have hk : IsReadableKey k.toList := h
    refine ⟨?_, ?_, hk.noBlankAhead c hc⟩
    · rintro rfl
      exact hk.noDollar hc
    · rintro rfl
      exact hk.noDot (List.mem_of_mem_head? hc)
  | index i =>
    obtain rfl : '[' = c := by simpa [Segment.text, indexText] using hc
    decide

theorem behind (h : s.IsReadable) : ∀ c ∈ s.text.getLast?, Text.isBlank c = false := by
  intro c hc
  cases s with
  | field k =>
    have hk : IsReadableKey k.toList := h
    exact hk.noBlankBehind c hc
  | index i =>
    rw [Segment.text, indexText, List.getLast?_concat] at hc
    obtain rfl : ']' = c := by simpa using hc
    decide

end Segment.IsReadable

end Rehearsal.Path

import Mathlib.Data.List.Chain
import Rehearsal.Proofs.Path.Leaves
import Rehearsal.Proofs.Text.Blank

/-!
# Legible positions

A key need not be free of every mark to come back from a path: blanks and a `$` count at the ends
of the whole path only, and a bracket that opens a key and is never closed is a part of its name.
`IsLegible` says which positions can be read from their written form. Main statements: a legible
position is read as itself (`parse_write_of_isLegible`), and where all positions are legible every
leaf below the root has its path (`leafPaths_eq_map_write`).
-/

namespace Rehearsal

namespace Path

/-! ## Segments on their own -/

/-- A key that is one part of a path. A bracket in it stands in front and is never closed, which
makes the whole part a name. -/
structure IsLegibleKey (k : List Char) : Prop where
  nonempty : k ≠ []
  noDot : '.' ∉ k
  unclosed : '[' ∈ k → k.head? = some '[' ∧ ']' ∉ k

/-- A segment that can be read from a path that it does not begin or end. -/
def Segment.IsLegible : Segment → Prop
  | .field k => IsLegibleKey k.toList
  | .index i => i < 1 <<< 64

/-- The second segment may stand behind the first one: it does not close a bracket of its key. -/
def Segment.Admits : Segment → Segment → Prop
  | .field k, .index _ => '[' ∉ k.toList
  | _, _ => True

theorem Segment.text_ne_nil {s : Segment} (h : s.IsLegible) : s.text ≠ [] := by
  cases s with
  | field k =>
    have hk : IsLegibleKey k.toList := h
    exact hk.nonempty
  | index i => simp [Segment.text, indexText]

/-- A legible key, with indices behind it if it has no bracket, is read as its segments. -/
theorem bodySegments_key {k : String} {is : List Nat} (hk : IsLegibleKey k.toList)
    (hi : ∀ i ∈ is, i < 1 <<< 64) (hb : is ≠ [] → '[' ∉ k.toList) :
    bodySegments (k.toList ++ is.flatMap indexText) = .field k :: is.map .index := by
  by_cases hmem : '[' ∈ k.toList
  · obtain rfl : is = [] := by
      by_contra hne
      exact hb hne hmem
    obtain ⟨hhead, hclosed⟩ := hk.unclosed hmem
    obtain ⟨r, hr⟩ := List.head?_eq_some_iff.1 hhead
    have hdot := hk.noDot
    rw [hr] at hdot hclosed
    have hname : String.ofList ('[' :: r) = k := by rw [← hr, String.ofList_toList]
    have hrest : ']' ∉ r := fun h => hclosed (List.mem_cons_of_mem _ h)
    rw [hr, List.flatMap_nil, List.append_nil, bodySegments, Text.splitOn_of_not_mem hdot]
    simp [partSegments_bracket, bracketSegments_of_unclosed hrest, hname]
  · have hp : Part.IsReadable ⟨k.toList, is⟩ := ⟨hk.noDot, hmem, hi⟩
    have hw := bodySegments_write hp
    simpa [Part.write, Part.segments, hk.nonempty] using hw

/-! ## The ends of a written position -/

theorem head?_writeBehind {path : List Char} (h : path ≠ []) (ss : List Segment) :
    (writeBehind path ss).head? = path.head? := by
  obtain ⟨rest, hrest⟩ := exists_writeBehind path ss
  rw [hrest, List.head?_append_of_ne_nil path h]

/-- A text is its own body exactly if it begins with no `$` and has no blank at its ends. -/
theorem body_eq_self_iff {cs : List Char} : body cs = cs ↔
    (∀ c ∈ cs.head?, c ≠ '$' ∧ Text.isBlank c = false)
      ∧ ∀ c ∈ cs.getLast?, Text.isBlank c = false := by
  constructor
  · intro h
    have hle := Text.length_trim_le cs
    -- where a `$` is left out the body is shorter than the text
    rw [body] at h
    split at h
    · next ht =>
      simp only [ht, h, List.length_cons] at hle
      omega
    · next ht =>
      simp only [ht, h, List.length_cons] at hle
      omega
    · next hdot hdollar =>
      obtain ⟨hl, hr⟩ := Text.trim_eq_self_iff.1 h
      refine ⟨fun c hc => ⟨?_, hl c hc⟩, hr⟩
      rintro rfl
      obtain ⟨r, hr⟩ := List.head?_eq_some_iff.1 hc
      exact hdollar r (h.trans hr)
  · rintro ⟨hl, hr⟩
    have htrim := Text.trim_eq_self (fun c hc => (hl c hc).2) hr
    exact body_eq_self htrim fun h => (hl '$' h).1 rfl

/-- The ends of a written position are those of its first and its last segment. -/
theorem body_writeBehind_iff {ss : List Segment} (h : ∀ s ∈ ss, s.text ≠ []) :
    body (writeBehind [] ss) = writeBehind [] ss ↔
      (∀ s ∈ ss.head?, ∀ c ∈ s.text.head?, c ≠ '$' ∧ Text.isBlank c = false)
        ∧ ∀ s ∈ ss.getLast?, ∀ c ∈ s.text.getLast?, Text.isBlank c = false := by
  rw [body_eq_self_iff]
  apply and_congr
  · cases ss with
    | nil => simp [writeBehind]
    | cons s ss =>
      rw [writeBehind_nil_cons, head?_writeBehind (h s (by simp))]
      simp
  · rcases List.eq_nil_or_concat ss with rfl | ⟨init, s, rfl⟩
    · simp [writeBehind]
    · obtain ⟨dot, hw⟩ := writeBehind_singleton (writeBehind [] init) s
      have hlast :
          (s.text.getLast?.or (writeBehind [] init ++ dot).getLast?) = s.text.getLast? := by
        cases ht : s.text.getLast? with
        | none => exact absurd (List.getLast?_eq_none_iff.1 ht) (h s (by simp))
        | some c => rfl
      rw [List.concat_eq_append, writeBehind_append, hw, List.getLast?_append, hlast]
      simp

/-! ## Legible positions -/

/-- A position that can be read from its written form: every segment can be read, no index closes a
bracket of the key before it, and what the path begins and ends with is not taken for its frame. -/
structure IsLegible (ss : List Segment) : Prop where
  each : ∀ s ∈ ss, s.IsLegible
  apart : ss.IsChain Segment.Admits
  ahead : ∀ s ∈ ss.head?, ∀ c ∈ s.text.head?, c ≠ '$' ∧ Text.isBlank c = false
  behind : ∀ s ∈ ss.getLast?, ∀ c ∈ s.text.getLast?, Text.isBlank c = false

instance (k : List Char) : Decidable (IsLegibleKey k) :=
  decidable_of_iff (k ≠ [] ∧ '.' ∉ k ∧ ('[' ∈ k → k.head? = some '[' ∧ ']' ∉ k))
    ⟨fun ⟨hn, hd, hu⟩ => ⟨hn, hd, hu⟩, fun ⟨hn, hd, hu⟩ => ⟨hn, hd, hu⟩⟩

instance : DecidablePred Segment.IsLegible
  | .field k => inferInstanceAs (Decidable (IsLegibleKey k.toList))
  | .index i => inferInstanceAs (Decidable (i < 1 <<< 64))

instance : DecidableRel Segment.Admits
  | .field k, .index _ => inferInstanceAs (Decidable ('[' ∉ k.toList))
  | .field _, .field _ | .index _, _ => inferInstanceAs (Decidable True)

-- the ends are looked at and not all characters tried
instance (ss : List Segment) : Decidable (IsLegible ss) :=
  decidable_of_iff ((∀ s ∈ ss, s.IsLegible) ∧ ss.IsChain Segment.Admits
      ∧ (ss.head?.all fun s => s.text.head?.all fun c => c != '$' && !Text.isBlank c) = true
      ∧ (ss.getLast?.all fun s => s.text.getLast?.all fun c => !Text.isBlank c) = true)
    ⟨fun ⟨he, hp, ha, hb⟩ =>
        ⟨he, hp, by simpa [Option.all_eq_true] using ha, by simpa [Option.all_eq_true] using hb⟩,
      fun ⟨he, hp, ha, hb⟩ =>
        ⟨he, hp, by simpa [Option.all_eq_true] using ha, by simpa [Option.all_eq_true] using hb⟩⟩

/-- The path is read as the segments, and so it is with indices behind it that these admit. -/
def ReadsAs (path : List Char) (ss : List Segment) : Prop :=
  ∀ is : List Nat, (∀ i ∈ is, i < 1 <<< 64) → (ss ++ is.map Segment.index).IsChain Segment.Admits →
    bodySegments (path ++ is.flatMap indexText) = ss ++ is.map .index

theorem readsAs_nil : ReadsAs [] [] := by
  intro is hi _
  have hp : Part.IsReadable ⟨[], is⟩ := ⟨by simp, by simp, hi⟩
  exact bodySegments_write hp

theorem readsAs_itemText {path : List Char} {ss : List Segment} (h : ReadsAs path ss) {i : Nat}
    (hi : i < 1 <<< 64) : ReadsAs (itemText path i) (ss ++ [.index i]) := by
  intro is his hc
  have hmore := h (i :: is) (by simpa using ⟨hi, his⟩) (by simpa using hc)
  simpa [itemText_eq] using hmore

/-- A dot between two paths parts their segments. -/
theorem readsAs_dot {a b : List Char} {ss ts : List Segment} (ha : ReadsAs a ss)
    (hb : ReadsAs b ts) : ReadsAs (a ++ '.' :: b) (ss ++ ts) := by
  intro is hi hc
  rw [List.append_assoc] at hc
  have hss : bodySegments a = ss := by
    simpa using ha [] (by simp) (by simpa using hc.left_of_append)
  rw [List.append_assoc, List.cons_append, bodySegments_dot, hss, hb is hi hc.right_of_append,
    List.append_assoc]

theorem readsAs_key {k : String} (hk : IsLegibleKey k.toList) : ReadsAs k.toList [.field k] := by
  intro is hi hc
  refine bodySegments_key hk hi fun hne => ?_
  obtain ⟨i, is, rfl⟩ := List.exists_cons_of_ne_nil hne
  exact (List.isChain_cons_cons.1 hc).1

theorem readsAs_fieldText {path : List Char} {ss : List Segment} (h : ReadsAs path ss)
    {k : String} (hk : IsLegibleKey k.toList) :
    ReadsAs (fieldText path k.toList) (ss ++ [.field k]) := by
  have hdot := readsAs_dot h (readsAs_key hk)
  cases path with
  -- a dot behind the empty path parts off nothing
  | nil => exact hdot
  | cons c path => exact hdot

theorem readsAs_writeBehind {path : List Char} {pre ss : List Segment} (h : ReadsAs path pre)
    (hs : ∀ s ∈ ss, s.IsLegible) : ReadsAs (writeBehind path ss) (pre ++ ss) := by
  induction ss generalizing path pre with
  | nil => simpa [writeBehind] using h
  | cons s ss ih =>
    have hrest : ∀ s ∈ ss, s.IsLegible := fun x hx => hs x (by simp [hx])
    have hs := hs s (by simp)
    rw [List.append_cons]
    cases s with
    | field k => exact ih (readsAs_fieldText h hs) hrest
    | index i => exact ih (readsAs_itemText h hs) hrest

/-- A legible position is read from its written form as itself. -/
theorem parse_write_of_isLegible {ss : List Segment} (h : IsLegible ss) :
    parse (write ss) = ss := by
  have hbody : body (writeBehind [] ss) = writeBehind [] ss :=
    (body_writeBehind_iff fun s hs => Segment.text_ne_nil (h.each s hs)).2 ⟨h.ahead, h.behind⟩
  have hread := readsAs_writeBehind readsAs_nil h.each [] (by simp) (by simpa using h.apart)
  show bodySegments (body (write ss).toList) = ss
  rw [write, String.toList_ofList, hbody]
  simpa using hread

/-- No legible position but the root consists of empty keys. -/
theorem IsLegible.exists_ne {p : List Segment} (h : IsLegible p) (hne : p ≠ []) :
    ∃ s ∈ p, s ≠ .field "" := by
  obtain ⟨s, ss, rfl⟩ := List.exists_cons_of_ne_nil hne
  have hs : s ≠ .field "" := by
    rintro rfl
    exact Segment.text_ne_nil (h.each (.field "") List.mem_cons_self) rfl
  exact ⟨s, List.mem_cons_self, hs⟩

/-- Where all positions are legible, all leaves but the root have a path. -/
theorem leafPaths_eq_map_write {v : Json} (h : ∀ p ∈ properLeaves v, IsLegible p) :
    leafPaths v = (properLeaves v).map write := by
  have hlisted : ∀ p ∈ properLeaves v, p.any (· ≠ .field "") = true := by
    intro p hp
    have hne : p ≠ [] := by simpa using (List.mem_filter.1 hp).2
    simpa using (h p hp).exists_ne hne
  rw [leafPaths_eq, List.filter_eq_self.2 hlisted]

/-! ## Positions of plain keys -/

/-- A position of keys without any mark is legible. -/
theorem isLegible_of_isReadable {ss : List Segment} (hs : ∀ s ∈ ss, s.IsReadable) :
    IsLegible ss where
  each s hmem := by
    cases s with
    | field k =>
      have hk : IsReadableKey k.toList := hs _ hmem
      exact ⟨hk.nonempty, hk.noDot, fun h => absurd h hk.noBracket⟩
    | index i => exact hs _ hmem
  apart := by
    refine List.Pairwise.isChain (List.pairwise_of_forall_mem_list fun s hmem t _ => ?_)
    cases s with
    | field k =>
      have hk : IsReadableKey k.toList := hs _ hmem
      cases t with
      | field l => trivial
      | index i => exact hk.noBracket
    | index i => trivial
  ahead s hmem c hc := by
    obtain ⟨hdollar, -, hblank⟩ := (hs s (List.mem_of_mem_head? hmem)).ahead c hc
    exact ⟨hdollar, hblank⟩
  behind s hmem := (hs s (List.mem_of_mem_getLast? hmem)).behind

/-- A position of keys without any mark is read from its written form as itself. -/
theorem parse_write {ss : List Segment} (hs : ∀ s ∈ ss, s.IsReadable) : parse (write ss) = ss :=
  parse_write_of_isLegible (isLegible_of_isReadable hs)

end Path
end Rehearsal

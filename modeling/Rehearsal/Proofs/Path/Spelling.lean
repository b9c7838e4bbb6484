import Rehearsal.Proofs.Path.Legible

/-!
# Spellings of a path

One path may be written in several ways: with a `$`, a `$.` or nothing in front, with a dot before
an index or without it, with blanks around all of it. A `Style` is one choice of these, and `spell`
the text of a path in this style. Main statement: in every style a path is read as its segments
(`parse_spell`).
-/

namespace Rehearsal.Path

/-- What stands in front of the first segment. -/
inductive Lead
  | bare
  | dollar
  | dollarDot
  deriving DecidableEq, Repr

def Lead.text : Lead → List Char
  | .bare => []
  | .dollar => ['$']
  | .dollarDot => ['$', '.']

/-- What the written form of a path leaves open. -/
structure Style where
  lead : Lead := .bare
  /-- Does a dot stand before the segment at this place, if it is an index? -/
  dotted : Nat → Bool := fun _ => false
  before : List Char := []
  behind : List Char := []
  isBlank_before : Text.isAllBlank before = true := by decide
  isBlank_behind : Text.isAllBlank behind = true := by decide

namespace Style

variable (style : Style)

/-- What stands before the `i`-th segment, which is not the first one: a field has a dot there, an
index may have one. -/
def joint (i : Nat) : Segment → List Char
  | .field _ => ['.']
  | .index _ => if style.dotted i then ['.'] else []

/-- The segments from the `i`-th one on, each with what stands before it. -/
def writeFrom (i : Nat) : List Segment → List Char
  | [] => []
  | s :: ss => style.joint i s ++ s.text ++ writeFrom (i + 1) ss

/-- The segments, the first one with nothing before it. -/
def write : List Segment → List Char
  | [] => []
  | s :: ss => s.text ++ style.writeFrom 1 ss

/-- The text of a path. -/
def spell (ss : List Segment) : String :=
  String.ofList (style.before ++ (style.lead.text ++ style.write ss) ++ style.behind)

end Style

/-! ## Segments -/

theorem readsAs_text {s : Segment} (h : s.IsLegible) : ReadsAs s.text [s] := by
  cases s with
  | field k => exact readsAs_key h
  | index i =>
    have := readsAs_itemText readsAs_nil (i := i) h
    rwa [itemText_eq] at this

/-- More segments behind a path are read behind its own, with the dots and without them. -/
theorem readsAs_writeFrom (style : Style) {path : List Char} {pre ss : List Segment} {i : Nat}
    (h : ReadsAs path pre) (hs : ∀ s ∈ ss, s.IsLegible) :
    ReadsAs (path ++ style.writeFrom i ss) (pre ++ ss) := by
  induction ss generalizing path pre i with
  | nil => simpa [Style.writeFrom] using h
  | cons s ss ih =>
    obtain ⟨hs, hss⟩ := List.forall_mem_cons.1 hs
    have hnext : ReadsAs (path ++ (style.joint i s ++ s.text)) (pre ++ [s]) := by
      have hdot := readsAs_dot h (readsAs_text hs)
      cases s with
      | field k => exact hdot
      | index j =>
        rw [Style.joint]
        split
        · exact hdot
        · have := readsAs_itemText h hs
          rwa [itemText_eq] at this
    rw [Style.writeFrom, ← List.append_assoc, List.append_cons]
    exact ih hnext hss

theorem bodySegments_write_of_isReadable (style : Style) {ss : List Segment}
    (h : ∀ s ∈ ss, s.IsReadable) : bodySegments (style.write ss) = ss := by
  have hlegible := isLegible_of_isReadable h
  have hread : ReadsAs (style.write ss) ss := by
    cases ss with
    | nil => exact readsAs_nil
    | cons s ss =>
      obtain ⟨hs, hss⟩ := List.forall_mem_cons.1 hlegible.each
      exact readsAs_writeFrom style (readsAs_text hs) hss
  simpa using hread [] (by simp) (by simpa using hlegible.apart)

/-! ## The ends -/

namespace Style

variable {style : Style} {ss : List Segment}

theorem head?_write (h : ∀ s ∈ ss, s.IsReadable) :
    ∀ c ∈ (style.write ss).head?, c ≠ '$' ∧ c ≠ '.' ∧ Text.isBlank c = false := by
  cases ss with
  | nil => simp [write]
  | cons s ss =>
    have hs := h s List.mem_cons_self
    rw [write, List.head?_append_of_ne_nil _ hs.text_ne_nil]
    exact hs.ahead

theorem getLast?_append_writeFrom {path : List Char} {i : Nat}
    (hpath : ∀ c ∈ path.getLast?, Text.isBlank c = false) (h : ∀ s ∈ ss, s.IsReadable) :
    ∀ c ∈ (path ++ style.writeFrom i ss).getLast?, Text.isBlank c = false := by
  induction ss generalizing path i with
  | nil => simpa [writeFrom] using hpath
  | cons s ss ih =>
    obtain ⟨hs, hss⟩ := List.forall_mem_cons.1 h
    rw [writeFrom, ← List.append_assoc, ← List.append_assoc]
    refine ih ?_ hss
    rw [List.getLast?_append, List.getLast?_eq_some_getLast hs.text_ne_nil, Option.some_or,
      ← List.getLast?_eq_some_getLast]
    exact hs.behind

theorem getLast?_write (h : ∀ s ∈ ss, s.IsReadable) :
    ∀ c ∈ (style.write ss).getLast?, Text.isBlank c = false := by
  cases ss with
  | nil => simp [write]
  | cons s ss =>
    obtain ⟨hs, hss⟩ := List.forall_mem_cons.1 h
    exact getLast?_append_writeFrom hs.behind hss

end Style

/-- What a path begins with is left out, as nothing behind it can be taken for a part of it. -/
theorem body_lead (lead : Lead) {cs : List Char}
    (hl : ∀ c ∈ cs.head?, c ≠ '$' ∧ c ≠ '.' ∧ Text.isBlank c = false)
    (hr : ∀ c ∈ cs.getLast?, Text.isBlank c = false) : body (lead.text ++ cs) = cs := by
  have hlast : ∀ c ∈ (lead.text ++ cs).getLast?, Text.isBlank c = false := by
    cases cs with
    | nil => cases lead <;> simp [Lead.text] <;> decide
    | cons c cs =>
      rw [List.getLast?_append, List.getLast?_cons, Option.some_or, ← List.getLast?_cons]
      exact hr
  have hdollar : ∀ c ∈ ['$'].head?, Text.isBlank c = false := by simp; decide
  cases lead with
  | bare => exact body_eq_self_iff.2 ⟨fun c hc => ⟨(hl c hc).1, (hl c hc).2.2⟩, hr⟩
  | dollar =>
    have htrim : Text.trim ('$' :: cs) = '$' :: cs := Text.trim_eq_self hdollar hlast
    show body ('$' :: cs) = cs
    rw [body, htrim]
    -- the dot of the longer beginning does not follow
    cases cs with
    | nil => rfl
    | cons c cs => simp [(hl c rfl).2.1]
  | dollarDot =>
    have htrim : Text.trim ('$' :: '.' :: cs) = '$' :: '.' :: cs := Text.trim_eq_self hdollar hlast
    show body ('$' :: '.' :: cs) = cs
    rw [body, htrim]
    rfl

/-- In every style the path of readable segments is read as these segments. -/
theorem parse_spell (style : Style) {ss : List Segment} (h : ∀ s ∈ ss, s.IsReadable) :
    parse (style.spell ss) = ss := by
  have hbefore := List.all_eq_true.1 style.isBlank_before
  have hbehind := List.all_eq_true.1 style.isBlank_behind
  show bodySegments (body (style.spell ss).toList) = ss
  rw [Style.spell, String.toList_ofList, body, Text.trim_blanks hbefore hbehind, ← body,
    body_lead style.lead (Style.head?_write h) (Style.getLast?_write h)]
  exact bodySegments_write_of_isReadable style h

/-- A path with a mark in front, one of its two indices behind a dot, and blanks around it. -/
def spacious : Style where
  lead := .dollarDot
  dotted i := i = 2
  before := [' ', '\t']
  behind := ['\n']

theorem parse_spell_spacious :
    (∀ s ∈ [.field "all items", .index 0, .index 12, .field "i$d]"], Segment.IsReadable s)
      ∧ spacious.spell [.field "all items", .index 0, .index 12, .field "i$d]"]
        = " \t$.all items[0].[12].i$d]\n"
      ∧ parse " \t$.all items[0].[12].i$d]\n"
        = [.field "all items", .index 0, .index 12, .field "i$d]"] := by
  have hitems : IsReadableKey "all items".toList := by constructor <;> simp <;> decide
  have hid : IsReadableKey "i$d]".toList := by constructor <;> simp <;> decide
  have hreadable : ∀ s ∈ [.field "all items", .index 0, .index 12, .field "i$d]"],
      Segment.IsReadable s := by
    simp only [List.forall_mem_cons, Segment.IsReadable]
    exact ⟨hitems, by decide, by decide, hid, by simp⟩
  have hspell : spacious.spell [.field "all items", .index 0, .index 12, .field "i$d]"]
    = " \t$.all items[0].[12].i$d]\n" := by decide
  refine ⟨hreadable, hspell, ?_⟩
  rw [← hspell]
  exact parse_spell spacious hreadable

end Rehearsal.Path

import Rehearsal.Text.Search

/-!
# Templates

A template is a text in which `${`, a body and `}` make a placeholder; the body is balanced in
braces, so the placeholder ends at the first brace that closes more than its body opened. `split?`
cuts a template into its segments and fails if a placeholder is not closed; `write` puts segments
together again. A list of segments is canonical if no literal is empty or holds a `${`, no two
literals stand side by side and every body is balanced; `split?` gives the one canonical list that
is written as the template.
-/

namespace Rehearsal

/-- A piece of a template. -/
inductive Template.Segment
  | literal (text : List Char)
  | placeholder (body : List Char)
  deriving DecidableEq

namespace Template

/-- What begins a placeholder. -/
def opening : List Char := ['$', '{']

/-- Cut a text at the first closing brace that closes none of the braces opened before it, where
`depth` braces are open already. -/
def closing? (depth : Nat) : List Char → Option (List Char × List Char)
  | [] => none
  | '{' :: r => (closing? (depth + 1) r).map fun (a, b) => ('{' :: a, b)
  | '}' :: r =>
    match depth with
    | 0 => some ([], r)
    | depth + 1 => (closing? depth r).map fun (a, b) => ('}' :: a, b)
  | c :: r => (closing? depth r).map fun (a, b) => (c :: a, b)

/-- Cutting at the closing brace loses nothing but that brace. -/
theorem closing?_eq_some {depth : Nat} {cs a b : List Char} (h : closing? depth cs = some (a, b)) :
    cs = a ++ '}' :: b := by
  fun_induction closing? depth cs generalizing a with
  | case1 => simp at h
  | case2 d r ih =>
    obtain ⟨⟨a', b'⟩, hr, he⟩ := Option.map_eq_some_iff.1 h
    obtain ⟨rfl, rfl⟩ := Prod.mk.injEq .. |>.mp he
    simp [ih hr]
  | case3 r =>
    simp only [Option.some.injEq, Prod.mk.injEq] at h
    obtain ⟨rfl, rfl⟩ := h
    rfl
  | case4 r d ih =>
    obtain ⟨⟨a', b'⟩, hr, he⟩ := Option.map_eq_some_iff.1 h
    obtain ⟨rfl, rfl⟩ := Prod.mk.injEq .. |>.mp he
    simp [ih hr]
  | case5 d c r _ _ ih =>
    obtain ⟨⟨a', b'⟩, hr, he⟩ := Option.map_eq_some_iff.1 h
    obtain ⟨rfl, rfl⟩ := Prod.mk.injEq .. |>.mp he
    simp [ih hr]

/-- What follows a placeholder is shorter than the whole text. -/
theorem length_rest_lt {cs before r body rest : List Char}
    (h : Text.cut? opening cs = some (before, r)) (hb : closing? 0 r = some (body, rest)) :
    rest.length < cs.length := by
  have h₁ := Text.length_of_cut? h
  have h₂ := congrArg List.length (closing?_eq_some hb)
  simp only [opening, List.length_cons, List.length_nil, List.length_append] at h₁ h₂
  omega

/-- The segment of a literal, if there is anything in it. -/
def literalSegment (text : List Char) : List Segment :=
  if text.isEmpty then [] else [.literal text]

/-- Cut a template into its segments; nothing if a placeholder is not closed. -/
def split? (cs : List Char) : Option (List Segment) :=
  match h : Text.cut? opening cs with
  | none => some (literalSegment cs)
  | some (before, r) =>
    match hb : closing? 0 r with
    -- one placeholder that is not closed makes all of the template unreadable
    | none => none
    | some (body, rest) =>
      have := length_rest_lt h hb
      (split? rest).map fun segments => literalSegment before ++ .placeholder body :: segments
termination_by cs.length

/-! ### Writing -/

def Segment.write : Segment → List Char
  | .literal text => text
  | .placeholder body => '$' :: '{' :: body ++ ['}']

/-- The template that is made of these segments. -/
def write (segments : List Segment) : List Char := segments.flatMap Segment.write

/-- Every brace that is closed was opened before, with `depth` of them open already, and none is
left open. -/
def Balanced (depth : Nat) : List Char → Prop
  | [] => depth = 0
  | '{' :: r => Balanced (depth + 1) r
  | '}' :: r =>
    match depth with
    | 0 => False
    | depth + 1 => Balanced depth r
  | _ :: r => Balanced depth r

/-- The one way in which a template is cut. -/
def Canonical : List Segment → Prop
  | [] => True
  | .literal text :: rest =>
    text ≠ [] ∧ Text.contains opening text = false
      ∧ (∀ t, rest.head? ≠ some (.literal t)) ∧ Canonical rest
  | .placeholder body :: rest => Balanced 0 body ∧ Canonical rest

/-- Every body is at least three characters shorter than the template it stands in. -/
theorem length_of_mem_split? {cs body : List Char} {segments : List Segment}
    (h : split? cs = some segments) (hm : .placeholder body ∈ segments) :
    body.length + 3 ≤ cs.length := by
  fun_induction split? cs generalizing segments with
  | case1 cs _ =>
    simp only [Option.some.injEq] at h
    subst h
    simp only [literalSegment] at hm
    split at hm <;> simp at hm
  | case2 => simp at h
  | case3 cs before r hcut b rest hclose _ ih =>
    obtain ⟨s, hs, rfl⟩ := Option.map_eq_some_iff.1 h
    have h₁ := Text.length_of_cut? hcut
    have h₂ := congrArg List.length (closing?_eq_some hclose)
    simp only [opening, List.length_cons, List.length_nil, List.length_append] at h₁ h₂
    simp only [literalSegment, List.mem_append, List.mem_cons, Segment.placeholder.injEq] at hm
    rcases hm with hm | rfl | hm
    · split at hm <;> simp at hm
    · omega
    · have := ih hs hm
      omega

end Template
end Rehearsal

import Rehearsal.Text.Blank

/-!
# Searching in texts

Texts are lists of characters. `cut? needle cs` finds the first place of `needle` in `cs` and gives
what stands before and after it; `replaceAll` puts another text in every place, from left to right
and without overlap; `splitOn` cuts at every occurrence of one character. Main statements:
`cut?_eq_some` (nothing is lost: `cs = before ++ needle ++ after`) and its length form, which is
what recursions over the rest stand on.
-/

namespace Rehearsal.Text

/-- What is left of `cs` after the text `needle` at its start. -/
def strip? : (needle cs : List Char) → Option (List Char)
  | [], cs => some cs
  | _ :: _, [] => none
  | n :: ns, c :: cs => if n = c then strip? ns cs else none

theorem strip?_eq_some {needle cs r : List Char} :
    strip? needle cs = some r ↔ cs = needle ++ r := by
  induction needle generalizing cs with
  | nil => simp [strip?, eq_comm]
  | cons n ns ih =>
    cases cs with
    | nil => simp [strip?]
    | cons c cs =>
      by_cases h : n = c
      · simp [strip?, h, ih]
      · simp [strip?, h, Ne.symm h]

/-- Does `cs` begin with `needle`? -/
def startsWith (needle cs : List Char) : Bool := (strip? needle cs).isSome

/-- Does `cs` end with `needle`? -/
def endsWith (needle cs : List Char) : Bool := startsWith needle.reverse cs.reverse

/-- The text before and after the first place of `needle`. -/
def cut? (needle : List Char) : List Char → Option (List Char × List Char)
  | [] => (strip? needle []).map fun r => ([], r)
  | c :: cs =>
    match strip? needle (c :: cs) with
    | some r => some ([], r)
    | none => (cut? needle cs).map fun (a, b) => (c :: a, b)

/-- Cutting loses nothing: the text is what stood before, the needle, and what stood after. -/
theorem cut?_eq_some {needle cs a b : List Char} (h : cut? needle cs = some (a, b)) :
    cs = a ++ needle ++ b := by
  induction cs generalizing a with
  | nil =>
    simp only [cut?, Option.map_eq_some_iff, Prod.mk.injEq] at h
    obtain ⟨r, hr, rfl, rfl⟩ := h
    simpa using strip?_eq_some.1 hr
  | cons c cs ih =>
    simp only [cut?] at h
    split at h
    · next r hr =>
      simp only [Option.some.injEq, Prod.mk.injEq] at h
      obtain ⟨rfl, rfl⟩ := h
      simpa using strip?_eq_some.1 hr
    · simp only [Option.map_eq_some_iff, Prod.mk.injEq] at h
      obtain ⟨⟨a', b'⟩, hr, rfl, rfl⟩ := h
      simp [ih hr]

theorem length_of_cut? {needle cs a b : List Char} (h : cut? needle cs = some (a, b)) :
    cs.length = a.length + needle.length + b.length := by
  simp [cut?_eq_some h, Nat.add_assoc]

theorem length_lt_of_cut? {needle cs a b : List Char} (h : cut? needle cs = some (a, b))
    (hn : needle ≠ []) : b.length < cs.length := by
  have := length_of_cut? h
  have := List.length_pos_iff.2 hn
  omega

/-- A single character is found at its first place. -/
theorem cut?_singleton {c : Char} {a : List Char} (h : c ∉ a) (b : List Char) :
    cut? [c] (a ++ c :: b) = some (a, b) := by
  induction a with
  | nil => simp [cut?, strip?]
  | cons d a ih =>
    simp only [List.mem_cons, not_or] at h
    simp [cut?, strip?, h.1, ih h.2]

/-- Does `needle` stand anywhere in `cs`? -/
def contains (needle cs : List Char) : Bool := (cut? needle cs).isSome

/-- Put `new` in every place of the non-empty text `needle`, from left to right and without
overlap. An empty needle changes nothing. -/
def replaceAll (needle new cs : List Char) : List Char :=
  if hn : needle = [] then cs
  else
    match h : cut? needle cs with
    | none => cs
    | some (a, b) =>
      have := length_lt_of_cut? h hn
      a ++ new ++ replaceAll needle new b
termination_by cs.length

/-- The pieces between the occurrences of `sep`: always one more than there are occurrences. -/
def splitOn (sep : Char) : List Char → List (List Char)
  | [] => [[]]
  | c :: cs =>
    if c = sep then [] :: splitOn sep cs
    else
      match splitOn sep cs with
      | [] => [[c]]
      | p :: ps => (c :: p) :: ps

/-- Both parts around the first occurrence of `sep`. -/
def splitOnce? (sep : Char) (cs : List Char) : Option (List Char × List Char) := cut? [sep] cs

end Rehearsal.Text

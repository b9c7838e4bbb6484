import Rehearsal.Call
import Rehearsal.Proofs.Text.Blank

/-!
# Splitting argument lists

A text is *enclosed* if its quotes and brackets are closed at its end and every comma in it stands
inside of them. Main statement: enclosed texts that are parted by commas are the pieces of the list
(`pieces_intercalate`). The lemmas above it say what each kind of text does to the state in which
the splitter reads on: a plain text and a quoted one leave it as it was, and a bracket changes the
depth by one.
-/

namespace Rehearsal.Call

/-- Read from a state of the splitter, the text ends outside quotes and brackets and has no comma
there. -/
def Enclosed (quoted : Bool) (depth : Int) : List Char → Prop
  | [] => quoted = false ∧ depth = 0
  | c :: cs =>
    if c = quote then Enclosed (!quoted) depth cs
    else if quoted then Enclosed true depth cs
    else ¬(c = ',' ∧ depth = 0) ∧ Enclosed false (depthAfter depth c) cs

/-! ## Reading on -/

theorem enclosed_quote_cons {quoted : Bool} {depth : Int} {cs : List Char} :
    Enclosed quoted depth (quote :: cs) ↔ Enclosed (!quoted) depth cs := by
  rw [Enclosed, if_pos rfl]

theorem enclosed_opening_cons {depth : Int} {c : Char} {cs : List Char} (h : c = '(' ∨ c = '{') :
    Enclosed false depth (c :: cs) ↔ Enclosed false (depth + 1) cs := by
  have hq : c ≠ quote := by rcases h with rfl | rfl <;> decide
  have hc : c ≠ ',' := by rcases h with rfl | rfl <;> decide
  simp [Enclosed, hq, hc, depthAfter, h]

theorem enclosed_closing_cons {depth : Int} {c : Char} {cs : List Char} (h : c = ')' ∨ c = '}') :
    Enclosed false depth (c :: cs) ↔ Enclosed false (depth - 1) cs := by
  have hq : c ≠ quote := by rcases h with rfl | rfl <;> decide
  have hc : c ≠ ',' := by rcases h with rfl | rfl <;> decide
  have ho : ¬(c = '(' ∨ c = '{') := by rcases h with rfl | rfl <;> decide
  simp [Enclosed, hq, hc, depthAfter, h, ho]

/-- A character that is neither quote nor bracket, and a comma only inside brackets. -/
def IsPlain (depth : Int) (c : Char) : Prop :=
  c ≠ quote ∧ c ≠ '(' ∧ c ≠ ')' ∧ c ≠ '{' ∧ c ≠ '}' ∧ (depth = 0 → c ≠ ',')

instance (depth : Int) (c : Char) : Decidable (IsPlain depth c) :=
  inferInstanceAs (Decidable (_ ∧ _))

theorem enclosed_plain_cons {depth : Int} {c : Char} {cs : List Char} (h : IsPlain depth c) :
    Enclosed false depth (c :: cs) ↔ Enclosed false depth cs := by
  obtain ⟨hq, ho, hc, hob, hcb, hcomma⟩ := h
  have hd : depthAfter depth c = depth := by simp [depthAfter, ho, hc, hob, hcb]
  rw [Enclosed, if_neg hq, hd]
  simp only [Bool.false_eq_true, if_false, and_iff_right_iff_imp]
  rintro - ⟨rfl, rfl⟩
  exact hcomma rfl rfl

/-- What is plain at a depth leaves the depth. -/
theorem enclosed_plain_append {depth : Int} {a b : List Char} (h : ∀ c ∈ a, IsPlain depth c) :
    Enclosed false depth (a ++ b) ↔ Enclosed false depth b := by
  induction a with
  | nil => rfl
  | cons c a ih =>
    rw [List.cons_append, enclosed_plain_cons (h c (by simp))]
    exact ih fun x hx => h x (by simp [hx])

/-- Inside quotes nothing counts but the next quote. -/
theorem enclosed_true_append {depth : Int} {s b : List Char} (h : quote ∉ s) :
    Enclosed true depth (s ++ b) ↔ Enclosed true depth b := by
  induction s with
  | nil => rfl
  | cons c s ih =>
    simp only [List.mem_cons, not_or] at h
    rw [List.cons_append, Enclosed, if_neg (Ne.symm h.1), if_pos rfl]
    exact ih h.2

/-- A text in quotes. -/
def quoted (s : List Char) : List Char := quote :: s ++ [quote]

/-- Nothing is counted in quotes. -/
theorem enclosed_quoted_append {depth : Int} {s b : List Char} (h : quote ∉ s) :
    Enclosed false depth (quoted s ++ b) ↔ Enclosed false depth b := by
  rw [quoted, List.cons_append, List.cons_append, enclosed_quote_cons, List.append_assoc,
    Bool.not_false, enclosed_true_append h, List.cons_append, enclosed_quote_cons]
  rfl

/-- Behind an enclosed text nothing is open. -/
theorem enclosed_append {q : Bool} {depth : Int} {a : List Char} (h : Enclosed q depth a)
    (b : List Char) : Enclosed q depth (a ++ b) ↔ Enclosed false 0 b := by
  fun_induction Enclosed q depth a with
  | case1 =>
    obtain ⟨rfl, rfl⟩ := h
    rfl
  | case2 q d cs ih => rw [List.cons_append, enclosed_quote_cons, ih h]
  | case3 d c cs hc ih => rw [List.cons_append, Enclosed, if_neg hc, if_pos rfl, ih h]
  | case4 q d c cs hc hq ih =>
    obtain rfl : q = false := by simpa using hq
    rw [List.cons_append, Enclosed, if_neg hc, if_neg hq, and_iff_right h.1, ih h.2]

/-- Blanks are plain outside of brackets. -/
theorem isPlain_of_isBlank {c : Char} (h : Text.isBlank c = true) : IsPlain 0 c := by
  refine ⟨?_, ?_, ?_, ?_, ?_, fun _ => ?_⟩ <;> exact Text.ne_of_isBlank h (by decide)

/-- Blanks around an enclosed text leave it enclosed. -/
theorem enclosed_blanks {left right cs : List Char} (hl : ∀ c ∈ left, Text.isBlank c = true)
    (hr : ∀ c ∈ right, Text.isBlank c = true) (h : Enclosed false 0 cs) :
    Enclosed false 0 (left ++ cs ++ right) := by
  rw [List.append_assoc, enclosed_plain_append fun c hc => isPlain_of_isBlank (hl c hc),
    enclosed_append h, ← List.append_nil right,
    enclosed_plain_append fun c hc => isPlain_of_isBlank (hr c hc)]
  exact ⟨rfl, rfl⟩

/-! ## Pieces -/

/-- A character in front belongs to the first piece. -/
theorem consFirst_eq_cons {c : Char} {ps rs : List (List Char)} {p : List Char} (hps : ps ≠ [])
    (h : consFirst c ps = p :: rs) : ∃ p', p = c :: p' ∧ ps = p' :: rs := by
  cases ps with
  | nil => exact absurd rfl hps
  | cons p' ps =>
    cases h
    exact ⟨p', rfl, rfl⟩

theorem consFirst_ne_nil (c : Char) (ps : List (List Char)) : consFirst c ps ≠ [] := by
  cases ps <;> exact List.cons_ne_nil _ _

/-- There is always a piece, if only an empty one. -/
theorem pieces_ne_nil (q : Bool) (depth : Int) (cs : List Char) : pieces q depth cs ≠ [] := by
  fun_cases pieces q depth cs with
  | case1 => exact List.cons_ne_nil _ _
  | case2 => exact consFirst_ne_nil _ _
  | case3 => exact consFirst_ne_nil _ _
  | case4 => exact List.cons_ne_nil _ _
  | case5 => exact consFirst_ne_nil _ _

theorem intercalate_consFirst (c : Char) {ps : List (List Char)} (h : ps ≠ []) :
    [','].intercalate (consFirst c ps) = c :: [','].intercalate ps := by
  cases ps with
  | nil => exact absurd rfl h
  | cons p ps => cases ps <;> simp [consFirst, List.intercalate_cons_cons]

/-- Nothing but the commas between them is lost when a list is cut into its pieces. -/
theorem intercalate_pieces (q : Bool) (depth : Int) (cs : List Char) :
    [','].intercalate (pieces q depth cs) = cs := by
  fun_induction pieces q depth cs with
  | case1 => rfl
  | case2 q d cs ih => rw [intercalate_consFirst _ (pieces_ne_nil _ _ _), ih]
  | case3 d c cs hc ih => rw [intercalate_consFirst _ (pieces_ne_nil _ _ _), ih]
  | case4 q d c cs hc hq hcomma ih =>
    obtain ⟨rfl, rfl⟩ := hcomma
    obtain ⟨p, ps, hps⟩ := List.exists_cons_of_ne_nil (pieces_ne_nil false 0 cs)
    rw [hps] at ih ⊢
    rw [List.intercalate_cons_cons, ih]
    rfl
  | case5 q d c cs hc hq hcomma ih => rw [intercalate_consFirst _ (pieces_ne_nil _ _ _), ih]

/-- A piece that another one follows is enclosed. -/
theorem pieces_eq_cons_cons {q : Bool} {depth : Int} {cs p r : List Char}
    {ps : List (List Char)} (h : pieces q depth cs = p :: r :: ps) :
    Enclosed q depth p ∧ ∃ rest, pieces false 0 rest = r :: ps := by
  fun_induction pieces q depth cs generalizing p with
  | case1 => cases h
  | case2 q d cs ih =>
    obtain ⟨p', rfl, hp'⟩ := consFirst_eq_cons (pieces_ne_nil _ _ _) h
    rw [enclosed_quote_cons]
    exact ih hp'
  | case3 d c cs hc ih =>
    obtain ⟨p', rfl, hp'⟩ := consFirst_eq_cons (pieces_ne_nil _ _ _) h
    rw [Enclosed, if_neg hc, if_pos rfl]
    exact ih hp'
  | case4 q d c cs hc hq hcomma =>
    obtain rfl : q = false := by simpa using hq
    obtain ⟨rfl, hcs⟩ := List.cons.inj h
    exact ⟨⟨rfl, hcomma.2⟩, cs, hcs⟩
  | case5 q d c cs hc hq hcomma ih =>
    obtain rfl : q = false := by simpa using hq
    obtain ⟨p', rfl, hp'⟩ := consFirst_eq_cons (pieces_ne_nil _ _ _) h
    rw [Enclosed, if_neg hc, if_neg hq, and_iff_right hcomma]
    exact ih hp'

/-- An enclosed text is one piece. -/
theorem pieces_of_enclosed {q : Bool} {depth : Int} {a : List Char} (h : Enclosed q depth a) :
    pieces q depth a = [a] := by
  fun_induction Enclosed q depth a with
  | case1 => rfl
  | case2 q d cs ih => rw [pieces, if_pos rfl, ih h]; rfl
  | case3 d c cs hc ih => rw [pieces, if_neg hc, if_pos rfl, ih h]; rfl
  | case4 q d c cs hc hq ih =>
    obtain rfl : q = false := by simpa using hq
    rw [pieces, if_neg hc, if_neg hq, if_neg h.1, ih h.2]
    rfl

/-- An enclosed text in front of a comma is the first piece. -/
theorem pieces_append {q : Bool} {depth : Int} {a : List Char} (h : Enclosed q depth a)
    (rest : List Char) : pieces q depth (a ++ ',' :: rest) = a :: pieces false 0 rest := by
  have hcomma : ',' ≠ quote := by decide
  fun_induction Enclosed q depth a with
  | case1 =>
    -- at the end of `a` nothing is open, so that the comma ends the piece
    obtain ⟨rfl, rfl⟩ := h
    simp [pieces, hcomma]
  | case2 q d cs ih => rw [List.cons_append, pieces, if_pos rfl, ih h]; rfl
  | case3 d c cs hc ih => rw [List.cons_append, pieces, if_neg hc, if_pos rfl, ih h]; rfl
  | case4 q d c cs hc hq ih =>
    obtain rfl : q = false := by simpa using hq
    rw [List.cons_append, pieces, if_neg hc, if_neg hq, if_neg h.1, ih h.2]
    rfl

/-- Enclosed texts that are parted by commas are the pieces of their list. -/
theorem pieces_intercalate {p : List Char} {ps : List (List Char)}
    (h : ∀ a ∈ p :: ps, Enclosed false 0 a) :
    pieces false 0 ([','].intercalate (p :: ps)) = p :: ps := by
  induction ps generalizing p with
  | nil =>
    rw [List.intercalate_singleton]
    exact pieces_of_enclosed (h p (by simp))
  | cons r ps ih =>
    have hp : Enclosed false 0 p := h p (by simp)
    have hr : ∀ a ∈ r :: ps, Enclosed false 0 a := fun a ha => h a (by simp [List.mem_cons.1 ha])
    rw [List.intercalate_cons_cons, List.append_assoc, List.singleton_append, pieces_append hp,
      ih hr]

/-- A blank behind every comma belongs to the piece behind it. -/
theorem intercalate_comma_blank (p : List Char) (ps : List (List Char)) :
    [',', ' '].intercalate (p :: ps) = [','].intercalate (p :: ps.map (' ' :: ·)) := by
  induction ps generalizing p with
  | nil => rfl
  | cons r ps ih =>
    have hr := congrArg (' ' :: ·) (ih r)
    cases ps <;> simp_all [List.intercalate_cons_cons]

/-! ## Arguments -/

/-- The arguments are the pieces, without the blanks and the quotes around them. Only a single
blank piece is none. -/
theorem splitArguments_eq_map {raw p : List Char} {ps : List (List Char)}
    (h : pieces false 0 raw = p :: ps) (hp : ps = [] → Text.trim p ≠ []) :
    splitArguments raw = (p :: ps).map fun a => unquote (Text.trim a) := by
  rw [splitArguments, h]
  cases ps with
  | nil => simp [hp rfl]
  | cons r ps => rfl

/-- Unless its one piece is blank, a list has an argument for each piece. -/
theorem splitArguments_of_pieces {raw p : List Char} {ps : List (List Char)}
    (h : pieces false 0 raw = p :: ps) (hp : Text.trim p ≠ []) :
    splitArguments raw = (p :: ps).map fun a => unquote (Text.trim a) :=
  splitArguments_eq_map h fun _ => hp

/-- Quotes are put on and taken away again. -/
theorem unquote_quoted (s : List Char) : unquote (quoted s) = s := by
  simp [unquote, quoted]

theorem unquote_of_ne {c : Char} {cs : List Char} (h : c ≠ quote) :
    unquote (c :: cs) = c :: cs := by
  simp [unquote, h]

/-- Blanks inside of quotes stay. -/
theorem trim_quoted (s : List Char) : Text.trim (quoted s) = quoted s := by
  refine Text.trim_eq_self ?_ ?_
  · intro c hc
    obtain rfl : quote = c := by simpa [quoted] using hc
    decide
  · intro c hc
    rw [quoted, List.getLast?_concat] at hc
    obtain rfl : quote = c := by simpa using hc
    decide

end Rehearsal.Call

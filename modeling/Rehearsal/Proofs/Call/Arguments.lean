import Mathlib.Algebra.Ring.Parity
import Mathlib.Data.List.Infix
import Mathlib.Tactic.MkIffOfInductiveProp
import Rehearsal.Proofs.Call.Closing

/-!
# Arguments as they are written

An argument is written in quotes, and then everything but a quote may stand in it, or without, and
then its quotes and brackets are closed in it and its commas stand inside of them. What this means
is said in numbers: of the quotes in front of a place (`Nesting.quoted_after`), and of the brackets
in front of it that stand outside of quotes (`Nesting.depth_after`). Main statement: a list of
written arguments, with commas between them and blanks around each, is split into just these
arguments, however many they are (`splitArguments_writeList`).
-/

namespace Rehearsal.Call

/-! ## Quotes and brackets in numbers -/

/-- What stands outside of quotes, where quotes may be open already. -/
def outside (quoted : Bool) : List Char → List Char
  | [] => []
  | c :: cs =>
    if c = quote then outside (!quoted) cs
    else if quoted then outside true cs
    else c :: outside false cs

/-- How many brackets a text opens. -/
def openings (cs : List Char) : Nat := cs.count '(' + cs.count '{'

/-- How many brackets a text closes. -/
def closings (cs : List Char) : Nat := cs.count ')' + cs.count '}'

theorem depthAfter_eq (depth : Int) (c : Char) (cs : List Char) :
    depthAfter depth c + openings cs - closings cs
      = depth + openings (c :: cs) - closings (c :: cs) := by
  simp only [openings, closings, List.count_cons, beq_iff_eq, depthAfter]
  split
  · next h => rcases h with rfl | rfl <;> simp <;> omega
  split
  · next h => rcases h with rfl | rfl <;> simp <;> omega
  · next ho hc =>
    rw [not_or] at ho hc
    simp [ho, hc]

namespace Nesting

theorem quoted_next_of_ne (s : Nesting) {c : Char} (h : c ≠ quote) :
    (s.next c).quoted = s.quoted := by
  rw [next, if_neg h]
  split <;> rfl

/-- Quotes are open behind a text as before it exactly if their number in it is even. -/
theorem quoted_after (s : Nesting) (cs : List Char) :
    (s.after cs).quoted = s.quoted ↔ Even (cs.count quote) := by
  induction cs generalizing s with
  | nil => simp
  | cons c cs ih =>
    rw [after_cons]
    by_cases hc : c = quote
    · subst hc
      rw [List.count_cons_self, Nat.even_add_one, ← ih (s.next quote)]
      simp [next]
    · rw [List.count_cons_of_ne hc, ← ih (s.next c), quoted_next_of_ne s hc]

/-- The depth behind a text is the number of the brackets that it opens outside of quotes without
the number of those that it closes there. -/
theorem depth_after (s : Nesting) (cs : List Char) : (s.after cs).depth
    = s.depth + openings (outside s.quoted cs) - closings (outside s.quoted cs) := by
  induction cs generalizing s with
  | nil => simp [outside, openings, closings]
  | cons c cs ih =>
    rw [after_cons, ih, next, outside]
    split
    · rfl
    split
    · next hq => rw [hq]
    · next hq =>
      obtain hq : s.quoted = false := by simpa using hq
      rw [hq]
      exact depthAfter_eq s.depth c _

theorem after_eq_start_iff {cs : List Char} : start.after cs = start ↔
    Even (cs.count quote) ∧ openings (outside false cs) = closings (outside false cs) := by
  have hdepth : (start.after cs).depth
      = 0 + openings (outside false cs) - closings (outside false cs) := depth_after start cs
  rw [Nesting.ext_iff, quoted_after, hdepth]
  refine and_congr_right fun _ => ?_
  show (0 + _ - _ = (0 : Int)) ↔ _
  omega

end Nesting

theorem enclosed_cons {s : Nesting} {c : Char} {cs : List Char} :
    Enclosed s.quoted s.depth (c :: cs)
      ↔ (c = ',' → s ≠ .start) ∧ Enclosed (s.next c).quoted (s.next c).depth cs := by
  rw [Enclosed, Nesting.next]
  split
  · next h => simp [h, quote]
  split
  · next hq =>
    have hs : s ≠ .start := by
      rintro rfl
      cases hq
    simp [hq, hs]
  · next hq =>
    obtain hq : s.quoted = false := by simpa using hq
    simp [Nesting.ext_iff, Nesting.start, hq]

/-- A text is enclosed if nothing is open behind it and something is in front of each comma. -/
theorem enclosed_iff {s : Nesting} {cs : List Char} : Enclosed s.quoted s.depth cs
    ↔ s.after cs = .start ∧ ∀ p, p ++ [','] <+: cs → s.after p ≠ .start := by
  induction cs generalizing s with
  | nil => simp [Enclosed, Nesting.ext_iff, Nesting.start]
  | cons c cs ih =>
    rw [enclosed_cons, ih]
    constructor
    · rintro ⟨hc, hend, hcomma⟩
      refine ⟨hend, ?_⟩
      intro p hp
      cases p with
      | nil =>
        obtain ⟨rfl, -⟩ := List.cons_prefix_cons.1 hp
        exact hc rfl
      | cons d p =>
        obtain ⟨rfl, hrest⟩ := List.cons_prefix_cons.1 hp
        exact hcomma p hrest
    · rintro ⟨hend, hcomma⟩
      refine ⟨?_, hend, ?_⟩
      · rintro rfl
        exact hcomma [] (List.cons_prefix_cons.2 ⟨rfl, List.nil_prefix⟩)
      · intro p hp
        exact hcomma (c :: p) (List.cons_prefix_cons.2 ⟨rfl, hp⟩)

/-! ## Written arguments -/

/-- What may be written without quotes around it. -/
@[mk_iff]
structure Argument.IsBare (cs : List Char) : Prop where
  nonempty : cs ≠ []
  trimmed : Text.trim cs = cs
  /-- All quotes in the text are closed. -/
  quotes : Even (cs.count quote)
  /-- Quotes do not seem to stand around the text. -/
  unquoted : ¬(cs.head? = some quote ∧ cs.getLast? = some quote)
  /-- Outside of quotes no bracket is closed that was not opened. -/
  covered : ∀ p, p <+: cs → closings (outside false p) ≤ openings (outside false p)
  /-- Outside of quotes all brackets are closed at the end. -/
  closed : openings (outside false cs) = closings (outside false cs)
  /-- A comma stands in quotes or in brackets. -/
  hidden : ∀ p, p ++ [','] <+: cs →
    Odd (p.count quote) ∨ closings (outside false p) < openings (outside false p)

instance : DecidablePred Argument.IsBare := fun cs =>
  -- a text has finitely many texts at its beginning
  have (P : List Char → Prop) [DecidablePred P] : Decidable (∀ p, p <+: cs → P p) :=
    decidable_of_iff (∀ p ∈ cs.inits, P p) (forall_congr' fun p => by rw [List.mem_inits])
  have (P : List Char → Prop) [DecidablePred P] : Decidable (∀ p, p ++ [','] <+: cs → P p) :=
    decidable_of_iff (∀ p, p <+: cs → p ++ [','] <+: cs → P p)
      (forall_congr' fun p => ⟨fun h hp => h ((List.prefix_append p _).trans hp) hp, fun h _ => h⟩)
  decidable_of_iff' _ (Argument.isBare_iff cs)

/-- An argument, and how it is written. -/
inductive Argument
  | quoted (text : List Char) (h : quote ∉ text)
  | bare (text : List Char) (h : Argument.IsBare text)

namespace Argument

def text : Argument → List Char
  | .quoted t _ => t
  | .bare t _ => t

def write : Argument → List Char
  | .quoted t _ => Call.quoted t
  | .bare t _ => t

end Argument

/-- An argument in a list, with the blanks between it and the commas. -/
structure Entry where
  before : List Char
  argument : Argument
  after : List Char
  blank_before : ∀ c ∈ before, Text.isBlank c = true
  blank_after : ∀ c ∈ after, Text.isBlank c = true

def Entry.write (e : Entry) : List Char := e.before ++ e.argument.write ++ e.after

/-- The arguments with commas between them. -/
def writeList (entries : List Entry) : List Char := [','].intercalate (entries.map Entry.write)

/-! ## A written argument is one piece -/

theorem unquote_eq_self {cs : List Char}
    (h : ¬(cs.head? = some quote ∧ cs.getLast? = some quote)) : unquote cs = cs := by
  cases cs with
  | nil => rfl
  | cons c r =>
    rw [unquote, if_neg]
    rintro ⟨rfl, hlast⟩
    apply h
    rw [List.getLast?_cons, hlast]
    exact ⟨rfl, rfl⟩

namespace Argument

theorem IsBare.enclosed {cs : List Char} (h : IsBare cs) : Enclosed false 0 cs := by
  have hend : Nesting.start.after cs = .start := Nesting.after_eq_start_iff.2 ⟨h.quotes, h.closed⟩
  have hcommas : ∀ p, p ++ [','] <+: cs → Nesting.start.after p ≠ .start := by
    intro p hp hstart
    obtain ⟨heven, hdepth⟩ := Nesting.after_eq_start_iff.1 hstart
    rcases h.hidden p hp with hodd | hlt
    · exact Nat.not_odd_iff_even.2 heven hodd
    · omega
  exact enclosed_iff.2 ⟨hend, hcommas⟩

theorem enclosed_write (a : Argument) : Enclosed false 0 a.write := by
  cases a with
  | quoted t h =>
    show Enclosed false 0 (Call.quoted t)
    rw [← List.append_nil (Call.quoted t), enclosed_quoted_append h]
    exact ⟨rfl, rfl⟩
  | bare t h => exact h.enclosed

theorem write_ne_nil (a : Argument) : a.write ≠ [] := by
  cases a with
  | quoted t h => exact List.cons_ne_nil _ _
  | bare t h => exact h.nonempty

theorem trim_write (a : Argument) : Text.trim a.write = a.write := by
  cases a with
  | quoted t h => exact trim_quoted t
  | bare t h => exact h.trimmed

theorem unquote_write (a : Argument) : unquote a.write = a.text := by
  cases a with
  | quoted t h => exact unquote_quoted t
  | bare t h => exact unquote_eq_self h.unquoted

end Argument

namespace Entry

theorem enclosed_write (e : Entry) : Enclosed false 0 e.write :=
  enclosed_blanks e.blank_before e.blank_after e.argument.enclosed_write

theorem trim_write (e : Entry) : Text.trim e.write = e.argument.write := by
  rw [write, Text.trim_blanks e.blank_before e.blank_after, e.argument.trim_write]

theorem unquote_trim_write (e : Entry) : unquote (Text.trim e.write) = e.argument.text := by
  rw [e.trim_write, e.argument.unquote_write]

end Entry

/-! ## The main statement -/

/-- A list of written arguments is split into these arguments. -/
theorem splitArguments_writeList (entries : List Entry) :
    splitArguments (writeList entries) = entries.map fun e => e.argument.text := by
  cases entries with
  | nil => rfl
  | cons e es =>
    have henclosed : ∀ a ∈ e.write :: es.map Entry.write, Enclosed false 0 a := by
      intro a ha
      rw [← List.map_cons] at ha
      obtain ⟨e', -, rfl⟩ := List.mem_map.1 ha
      exact e'.enclosed_write
    have hpieces : pieces false 0 (writeList (e :: es)) = e.write :: es.map Entry.write :=
      pieces_intercalate henclosed
    have hfirst : Text.trim e.write ≠ [] := by
      rw [e.trim_write]
      exact e.argument.write_ne_nil
    rw [splitArguments_of_pieces hpieces hfirst, ← List.map_cons, List.map_map]
    apply List.map_congr_left
    intro e' _
    exact e'.unquote_trim_write

/-- Blanks, commas and brackets in quotes, quotes and commas in brackets, and an empty argument. -/
def mixedList : List Entry :=
  [⟨[], .quoted " a, (b".toList (by decide), [' '], nofun, List.forall_mem_singleton.2 rfl⟩,
    ⟨['\t'], .bare "my:join(x, ')', $\x7by,z\x7d)".toList (by decide), [],
      List.forall_mem_singleton.2 rfl, nofun⟩,
    ⟨[], .quoted [] List.not_mem_nil, [], nofun, nofun⟩,
    ⟨[' '], .bare "it''s '(,' so".toList (by decide), ['\n'],
      List.forall_mem_singleton.2 rfl, List.forall_mem_singleton.2 rfl⟩]

theorem splitArguments_writeList_mixed :
    splitArguments "' a, (b' ,\tmy:join(x, ')', $\x7by,z\x7d),'', it''s '(,' so\n".toList
      = [" a, (b".toList, "my:join(x, ')', $\x7by,z\x7d)".toList, [], "it''s '(,' so".toList] := by
  have hwrite : writeList mixedList
      = "' a, (b' ,\tmy:join(x, ')', $\x7by,z\x7d),'', it''s '(,' so\n".toList := by decide
  rw [← hwrite, splitArguments_writeList]
  rfl

end Rehearsal.Call

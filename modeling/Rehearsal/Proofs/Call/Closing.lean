import Mathlib.Data.List.Induction
import Rehearsal.Proofs.Call.Split
import Rehearsal.Proofs.Matcher.Written

/-!
# Where the list of a call ends

The list of a call goes up to the last closing parenthesis of the text, whatever stands between the
parentheses; brackets are counted only when the list is split. `Nesting` is that count. Main
statement: the texts that are read as calls, and the lists that they are read with, are those in
which a head stands in front of any text in parentheses; no more brackets are closed in such a list
than were opened in it exactly if the bracket behind the head is not closed before the end
(`calls_end_last_iff`). Two calls with a comma between them are read as one (`calls_read_as_one`).
-/

namespace Rehearsal

namespace Call

/-! ## Nesting -/

/-- What the splitter knows behind a text: is a quote open, and how many brackets are. -/
@[ext]
structure Nesting where
  quoted : Bool
  depth : Int
  deriving DecidableEq

namespace Nesting

def start : Nesting := ⟨false, 0⟩

/-- A quote opens or closes quotes, and in quotes no bracket counts. -/
def next (s : Nesting) (c : Char) : Nesting :=
  if c = quote then { s with quoted := !s.quoted }
  else if s.quoted then s
  else { s with depth := depthAfter s.depth c }

def after (s : Nesting) (cs : List Char) : Nesting := cs.foldl next s

@[simp] theorem after_nil (s : Nesting) : s.after [] = s := rfl

@[simp] theorem after_cons (s : Nesting) (c : Char) (cs : List Char) :
    s.after (c :: cs) = (s.next c).after cs := rfl

theorem after_append (s : Nesting) (a b : List Char) : s.after (a ++ b) = (s.after a).after b :=
  List.foldl_append

theorem after_concat (s : Nesting) (cs : List Char) (c : Char) :
    s.after (cs ++ [c]) = (s.after cs).next c := after_append s cs [c]

/-- Only a closing bracket outside of quotes makes the depth smaller, and by one. -/
theorem depth_next (s : Nesting) (c : Char) : s.depth ≤ (s.next c).depth
    ∨ (c = ')' ∨ c = '}') ∧ s.quoted = false ∧ s.next c = ⟨false, s.depth - 1⟩ := by
  rw [next]
  split
  · exact .inl (Int.le_refl _)
  split
  · exact .inl (Int.le_refl _)
  · next hq =>
    have hq : s.quoted = false := by simpa using hq
    simp only [depthAfter]
    split
    · exact .inl (by omega)
    split
    · next hc => exact .inr ⟨hc, hq, by rw [hq]⟩
    · exact .inl (Int.le_refl _)

end Nesting

/-! ## Closing brackets without opening ones -/

/-- No text at the beginning closes more brackets than it opened. -/
def Covered (cs : List Char) : Prop := ∀ p, p <+: cs → 0 ≤ (Nesting.start.after p).depth

theorem Covered.depth_nonneg {cs : List Char} (h : Covered cs) :
    0 ≤ (Nesting.start.after cs).depth := h cs List.prefix_rfl

theorem covered_concat {cs : List Char} {c : Char} :
    Covered (cs ++ [c]) ↔ Covered cs ∧ 0 ≤ (Nesting.start.after (cs ++ [c])).depth := by
  constructor
  · exact fun h => ⟨fun p hp => h p (hp.trans (List.prefix_append _ _)), h.depth_nonneg⟩
  · rintro ⟨h, hc⟩ p hp
    rcases List.prefix_concat_iff.1 hp with rfl | hp
    · exact hc
    · exact h p hp

/-- Is a text cut at the first bracket that closes one which was opened in front of the text? -/
structure IsOverrun (cs inner : List Char) (closer : Char) (rest : List Char) : Prop where
  eq_append : cs = inner ++ closer :: rest
  closer_eq : closer = ')' ∨ closer = '}'
  covered : Covered inner
  after_inner : Nesting.start.after inner = Nesting.start

theorem IsOverrun.not_covered {cs inner rest : List Char} {closer : Char}
    (h : IsOverrun cs inner closer rest) : ¬Covered cs := by
  intro hc
  have hprefix : inner ++ [closer] <+: cs := ⟨rest, by simp [h.eq_append]⟩
  have hdepth : (Nesting.start.after (inner ++ [closer])).depth = -1 := by
    rw [Nesting.after_concat, h.after_inner]
    rcases h.closer_eq with rfl | rfl <;> decide
  have := hc _ hprefix
  omega

theorem IsOverrun.append {cs inner rest : List Char} {closer : Char}
    (h : IsOverrun cs inner closer rest) (more : List Char) :
    IsOverrun (cs ++ more) inner closer (rest ++ more) :=
  { h with eq_append := by simp [h.eq_append] }

/-- A text closes a bracket too many exactly if there is a first one. -/
theorem not_covered_iff {cs : List Char} :
    ¬Covered cs ↔ ∃ inner closer rest, IsOverrun cs inner closer rest := by
  refine ⟨?_, fun ⟨_, _, _, h⟩ => h.not_covered⟩
  induction cs using List.reverseRecOn with
  | nil =>
    intro h
    exact absurd (fun p hp => by rw [List.prefix_nil.1 hp]; exact Int.le_refl 0) h
  | append_singleton cs c ih =>
    intro h
    by_cases hcs : Covered cs
    · -- the last bracket is the first one too many
      have hdepth : ¬0 ≤ (Nesting.start.after (cs ++ [c])).depth := fun hd =>
        h (covered_concat.2 ⟨hcs, hd⟩)
      rw [Nesting.after_concat] at hdepth
      have hnonneg := hcs.depth_nonneg
      rcases (Nesting.start.after cs).depth_next c with hle | ⟨hc, hquoted, hnext⟩
      · omega
      · rw [hnext] at hdepth
        have hzero : (Nesting.start.after cs).depth = 0 := by simp only at hdepth; omega
        exact ⟨cs, c, [], rfl, hc, hcs, Nesting.ext hquoted hzero⟩
    · obtain ⟨inner, closer, rest, hover⟩ := ih hcs
      exact ⟨inner, closer, rest ++ [c], hover.append [c]⟩

/-! ## Texts that are read as calls -/

/-- In a text that begins with this head the bracket behind it is closed, and the text goes on. -/
def EndsEarly (q n text : List Char) : Prop :=
  ∃ list inner closer rest, text = q ++ n ++ '(' :: list ∧ IsOverrun list inner closer rest
    ∧ rest ≠ []

/-- A list is covered exactly if its call does not end before the last bracket. -/
theorem covered_iff {q n raw : List Char} :
    Covered raw ↔ ¬EndsEarly q n (writeCall q n raw) := by
  rw [iff_not_comm, not_covered_iff]
  constructor
  · rintro ⟨list, inner, closer, rest, htext, hover, hne⟩
    have hlist : raw ++ [')'] = list := by
      rw [writeCall] at htext
      exact (List.cons.inj (List.append_cancel_left htext)).2
    obtain ⟨rest, x, rfl⟩ := (List.eq_nil_or_concat rest).resolve_left hne
    have heq := hlist.trans hover.eq_append
    rw [List.concat_eq_append, ← List.cons_append, ← List.append_assoc] at heq
    exact ⟨inner, closer, rest, { hover with eq_append := (List.append_inj' heq rfl).1 }⟩
  · rintro ⟨inner, closer, rest, hover⟩
    exact ⟨raw ++ [')'], inner, closer, rest ++ [')'], rfl, hover.append _, by simp⟩

/-- What is read as a call is any text in parentheses behind a head. -/
theorem parse?_eq_some_iff {expression : List Char} {c : Call} :
    parse? expression = some c ↔ ∃ q n raw, IsQualifier q ∧ IsName n
      ∧ Text.trim expression = writeCall q n raw
      ∧ c = ⟨String.ofList q, String.ofList n, splitArguments raw⟩ := by
  constructor
  · intro h
    simp only [parse?, Option.bind_eq_bind, Option.bind_eq_some_iff, Prod.exists] at h
    obtain ⟨q, r, hq, n, r', hn, raw, hr, hc⟩ := h
    refine ⟨q, n, raw, isQualifier_of_readQualifier? hq, isName_of_readName? hn, ?_,
      (Option.some.inj hc).symm⟩
    rw [eq_append_of_readQualifier? hq, eq_append_of_readName? hn, readParenthesized?_eq_some hr,
      writeCall, List.append_assoc]
  · rintro ⟨q, n, raw, hq, hn, htrim, rfl⟩
    rw [← parse?_writeCall hq hn raw]
    simp only [parse?, htrim, trim_writeCall hq]

/-- The bracket in front of a list stands in none of the names. -/
theorem IsHead.not_mem {q n : List Char} (h : IsHead q n) : '(' ∉ q ++ n := by
  intro hm
  rcases h.isQualifierChar_or _ hm with hc | hc
  · exact (CallTree.ne_of_isQualifierChar hc).2.1 rfl
  · cases hc

end Call

namespace Matcher

/-- What is read as a matcher with a list is any text in parentheses behind a head, the head without
a qualifier or with one, between two `@`. -/
theorem parse_eq_ok_iff {e : String} {c : Call} : parse e = .ok c ∧ '(' ∈ e.toList
    ↔ ∃ m q n raw, inside? e.toList = some m ∧ Call.IsHead q n
      ∧ Text.trim m = Call.writeCall q n raw
      ∧ c = ⟨String.ofList q, String.ofList n, Call.splitArguments raw⟩ := by
  constructor
  · rintro ⟨h, hparen⟩
    obtain ⟨m, hm, hc⟩ := parse_eq_ok.1 h
    obtain ⟨l, r, he, hl, hr⟩ := inside?_eq_some hm
    obtain ⟨l', r', q, n, rest, hm', hl', hr', hhead, hq, hn, hargs, -⟩ := readCall?_eq_some hc
    have hblank : ∀ {cs : List Char}, (∀ c ∈ cs, Text.isBlank c = true) → '(' ∉ cs :=
      fun hcs hmem => Text.ne_of_isBlank (hcs _ hmem) (by decide) rfl
    cases rest with
    | nil =>
      -- without a list there is no parenthesis
      rw [he, hm'] at hparen
      simp only [List.mem_append, List.mem_cons, hblank hl, hblank hr, hblank hl', hblank hr',
        Char.reduceEq, List.not_mem_nil, or_false, false_or] at hparen
      exact absurd (List.mem_append.2 hparen) hhead.not_mem
    | cons x rest =>
      obtain ⟨raw, hraw, hsplit⟩ : ∃ raw, Call.readParenthesized? (x :: rest) = some raw
          ∧ Call.splitArguments raw = c.args := by
        simpa [readArguments?] using hargs
      refine ⟨m, q, n, raw, hm, hhead, ?_, ?_⟩
      · rw [hm', Text.trim_blanks hl' hr', Call.readParenthesized?_eq_some hraw]
        exact hhead.trim_writeCall raw
      · rw [← hq, ← hn, hsplit]
  · rintro ⟨m, q, n, raw, hm, hhead, htrim, rfl⟩
    obtain ⟨left, right, hsplit, hl, hr⟩ := Text.exists_trim m
    have hread := readCall?_write hl hr hhead raw
    rw [← htrim, ← hsplit] at hread
    obtain ⟨l, r, he, -, -⟩ := inside?_eq_some hm
    refine ⟨parse_eq_ok.2 ⟨m, hm, hread⟩, ?_⟩
    rw [he, hsplit, htrim]
    simp [Call.writeCall]

end Matcher

/-! ## The main statement -/

/-- A text is read as a call, or as a matcher with a list, whatever stands in its list up to the
last parenthesis. No text at the beginning of the list closes more brackets than it opened exactly
if the bracket behind the names is not closed before the end. -/
theorem Call.calls_end_last_iff (e : String) (c : Call) :
    (parse? e.toList = some c ↔ ∃ q n raw, IsQualifier q ∧ IsName n
        ∧ Text.trim e.toList = writeCall q n raw
        ∧ c = ⟨String.ofList q, String.ofList n, splitArguments raw⟩
        ∧ (Covered raw ↔ ¬EndsEarly q n (Text.trim e.toList)))
      ∧ (Matcher.parse e = .ok c ∧ '(' ∈ e.toList ↔ ∃ m q n raw,
        Matcher.inside? e.toList = some m ∧ IsHead q n ∧ Text.trim m = writeCall q n raw
          ∧ c = ⟨String.ofList q, String.ofList n, splitArguments raw⟩
          ∧ (Covered raw ↔ ¬EndsEarly q n (Text.trim m))) := by
  constructor
  · rw [parse?_eq_some_iff]
    constructor
    · rintro ⟨q, n, raw, hq, hn, htrim, hc⟩
      exact ⟨q, n, raw, hq, hn, htrim, hc, htrim ▸ covered_iff⟩
    · rintro ⟨q, n, raw, hq, hn, htrim, hc, -⟩
      exact ⟨q, n, raw, hq, hn, htrim, hc⟩
  · rw [Matcher.parse_eq_ok_iff]
    constructor
    · rintro ⟨m, q, n, raw, hm, hhead, htrim, hc⟩
      exact ⟨m, q, n, raw, hm, hhead, htrim, hc, htrim ▸ covered_iff⟩
    · rintro ⟨m, q, n, raw, hm, hhead, htrim, hc, -⟩
      exact ⟨m, q, n, raw, hm, hhead, htrim, hc⟩

/-- Two calls with a comma between them are read as one call with one argument, and so are two
matchers. -/
theorem Call.calls_read_as_one :
    (parse? "courier:concat('a'), courier:concat('b')".toList
        = some ⟨"courier:", "concat", ["a'), courier:concat('b".toList]⟩
      ∧ Text.trim "courier:concat('a'), courier:concat('b')".toList
        = writeCall "courier:".toList "concat".toList "'a'), courier:concat('b'".toList
      ∧ ¬Covered "'a'), courier:concat('b'".toList)
    ∧ Matcher.parse "@contains('a'), contains('b')@"
        = .ok ⟨"", "contains", ["a'), contains('b".toList]⟩
      ∧ Matcher.inside? "@contains('a'), contains('b')@".toList
        = some (writeCall [] "contains".toList "'a'), contains('b'".toList)
      ∧ ¬Covered "'a'), contains('b'".toList := by
  have hcovered : ∀ rest, ¬Covered ("'a'".toList ++ ')' :: rest) := fun rest h =>
    absurd (h "'a')".toList ⟨rest, by simp⟩) (by decide)
  refine ⟨⟨by decide, by decide, ?_⟩, by decide, by decide, ?_⟩
  · exact hcovered ", courier:concat('b'".toList
  · exact hcovered ", contains('b'".toList

end Rehearsal

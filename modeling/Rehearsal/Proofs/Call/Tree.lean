import Rehearsal.Expression
import Rehearsal.Proofs.Call.Read
import Rehearsal.Proofs.Call.Split
import Rehearsal.Proofs.Template.Balance

/-!
# Written call trees

A call tree is what the author of a template means by nested calls: functions over texts in quotes
and variables. `write` is its written form. Three readers with rules of their own look at that form,
and each of them finds in it what was written, at every depth:

* the scanner for placeholders, because the braces are balanced (`balanced_write`);
* the splitter of arguments, because every argument is enclosed (`enclosed_write`), so that it gives
  the arguments back (`splitArguments_intercalate`);
* the reader of calls, because a qualifier and a name stand in front of the parentheses.
-/

namespace Rehearsal

/-- Nested calls of functions. -/
inductive CallTree
  | quoted (text : List Char)
  | lookup (name : List Char)
  | node (qualifier name : List Char) (args : List CallTree)

namespace CallTree

mutual
/-- The written form of a tree. -/
def write : CallTree → List Char
  | .quoted s => Call.quoted s
  | .lookup x => (Template.Segment.placeholder x).write
  | .node q n args => Call.writeCall q n ([',', ' '].intercalate (writeAll args))

/-- The written forms of the arguments of a call. -/
def writeAll : List CallTree → List (List Char)
  | [] => []
  | t :: ts => write t :: writeAll ts
end

/-! ## Well-formed trees -/

/-- What may stand in quotes: no quote and no placeholder, balanced braces, and not the shape of a
call of a known library. -/
structure IsText (known : String → Bool) (s : List Char) : Prop where
  noQuote : Call.quote ∉ s
  noPlaceholder : Text.contains Template.opening s = false
  balanced : Template.Balanced 0 s
  noCall : Expression.call? known s = none

/-- What may stand as the name of a variable: no blanks around it, no quotes, braces or
parentheses. -/
structure IsVariable (x : List Char) : Prop where
  trimmed : Text.trim x = x
  plain : ∀ c ∈ x, c ≠ Call.quote ∧ c ≠ '{' ∧ c ≠ '}' ∧ c ≠ '(' ∧ c ≠ ')'

mutual
/-- Every call names a function of a known library, and every leaf is written as it may be. -/
def WellFormed (known : String → Bool) : CallTree → Prop
  | .quoted s => IsText known s
  | .lookup x => IsVariable x
  | .node q n args => Call.IsQualifier q ∧ Call.IsName n ∧ known (String.ofList q) = true
      ∧ AllWellFormed known args

def AllWellFormed (known : String → Bool) : List CallTree → Prop
  | [] => True
  | t :: ts => WellFormed known t ∧ AllWellFormed known ts
end

/-! ## The characters of names -/

theorem isQualifierChar_eq_false {c : Char} (hn : c.toNat ≤ 127)
    (h : Text.isAsciiWord c = false ∧ c ≠ '.' ∧ c ≠ '-') : Call.isQualifierChar c = false := by
  simp [Call.isQualifierChar, Text.isWord_eq_false hn h.1, h.2.1, h.2.2]

theorem ne_of_isQualifierChar {c : Char} (h : Call.isQualifierChar c = true) :
    c ≠ Call.quote ∧ c ≠ '(' ∧ c ≠ ')' ∧ c ≠ '{' ∧ c ≠ '}' ∧ c ≠ ',' := by
  have key : ∀ d : Char, d.toNat ≤ 127 → (Text.isAsciiWord d = false ∧ d ≠ '.' ∧ d ≠ '-') →
      c ≠ d := by
    rintro d hn hd rfl
    rw [isQualifierChar_eq_false hn hd] at h
    cases h
  refine ⟨?_, ?_, ?_, ?_, ?_, ?_⟩ <;> exact key _ (by decide) (by decide)

theorem isQualifierChar_of_isWord {c : Char} (h : Text.isWord c = true) :
    Call.isQualifierChar c = true := by
  simp [Call.isQualifierChar, h]

/-- Neither a qualifier nor a name has quotes, brackets or commas. -/
theorem ne_of_mem_names {q n : List Char} (hq : Call.IsQualifier q) (hn : Call.IsName n)
    {c : Char} (hc : c ∈ q ++ n) :
    c ≠ Call.quote ∧ c ≠ '(' ∧ c ≠ ')' ∧ c ≠ '{' ∧ c ≠ '}' ∧ c ≠ ',' := by
  obtain ⟨a, as, rfl, ha, has⟩ := hq
  obtain ⟨b, bs, rfl, hb, hbs⟩ := hn
  simp only [List.cons_append, List.append_assoc, List.mem_cons, List.mem_append,
    List.nil_append] at hc
  rcases hc with rfl | hc | rfl | rfl | hc
  · exact ne_of_isQualifierChar (isQualifierChar_of_isWord (Text.isWord_of_isNameStart ha))
  · exact ne_of_isQualifierChar (has c hc)
  · decide
  · exact ne_of_isQualifierChar (isQualifierChar_of_isWord (Text.isWord_of_isNameStart hb))
  · exact ne_of_isQualifierChar (isQualifierChar_of_isWord (hbs c hc))

/-! ## Written arguments

The text between the parentheses of a call: the written arguments, parted by a comma and a blank.
-/

theorem isPlain_of_names {q n : List Char} (hq : Call.IsQualifier q) (hn : Call.IsName n)
    (depth : Int) : ∀ c ∈ q ++ n, Call.IsPlain depth c := by
  intro c hc
  obtain ⟨h₁, h₂, h₃, h₄, h₅, h₆⟩ := ne_of_mem_names hq hn hc
  exact ⟨h₁, h₂, h₃, h₄, h₅, fun _ => h₆⟩

mutual
/-- A written tree leaves the state of the splitter as it was. -/
theorem enclosed_write {known : String → Bool} : ∀ (t : CallTree), t.WellFormed known →
    ∀ (depth : Int), 0 ≤ depth → ∀ (b : List Char),
      Call.Enclosed false depth (t.write ++ b) ↔ Call.Enclosed false depth b
  | .quoted s, h, depth, _, b => Call.enclosed_quoted_append h.noQuote
  | .lookup x, h, depth, hd, b => by
    -- inside the braces of the placeholder the depth is positive, so that commas do not count
    have hx : ∀ c ∈ x, Call.IsPlain (depth + 1) c := by
      intro c hc
      obtain ⟨h₁, h₂, h₃, h₄, h₅⟩ := h.plain c hc
      exact ⟨h₁, h₄, h₅, h₂, h₃, fun h0 => by omega⟩
    have hdollar : Call.IsPlain depth '$' :=
      ⟨by decide, by decide, by decide, by decide, by decide, fun _ => by decide⟩
    have hw : (CallTree.lookup x).write ++ b = '$' :: '{' :: (x ++ '}' :: b) := by
      simp [write, Template.Segment.write]
    rw [hw, Call.enclosed_plain_cons hdollar, Call.enclosed_opening_cons (.inr rfl),
      Call.enclosed_plain_append hx, Call.enclosed_closing_cons (.inr rfl), Int.add_sub_cancel]
  | .node q n args, h, depth, hd, b => by
    obtain ⟨hq, hn, -, ha⟩ := h
    have hw : (CallTree.node q n args).write ++ b
        = (q ++ n) ++ '(' :: ([',', ' '].intercalate (writeAll args) ++ ')' :: b) := by
      simp [write, Call.writeCall]
    rw [hw, Call.enclosed_plain_append (isPlain_of_names hq hn depth),
      Call.enclosed_opening_cons (.inl rfl), enclosed_intercalate args ha (depth + 1) (by omega),
      Call.enclosed_closing_cons (.inl rfl), Int.add_sub_cancel]

/-- Inside brackets the commas between written trees do not count. -/
theorem enclosed_intercalate {known : String → Bool} : ∀ (ts : List CallTree),
    AllWellFormed known ts → ∀ (depth : Int), 0 < depth → ∀ (b : List Char),
      Call.Enclosed false depth ([',', ' '].intercalate (writeAll ts) ++ b)
        ↔ Call.Enclosed false depth b
  | [], _, _, _, _ => Iff.rfl
  | [t], h, depth, hd, b => by
    rw [writeAll, writeAll, List.intercalate_singleton]
    exact enclosed_write t h.1 depth (by omega) b
  | t :: u :: ts, h, depth, hd, b => by
    have hsep : ∀ c ∈ [',', ' '], Call.IsPlain depth c := by
      intro c hc
      rcases List.mem_cons.1 hc with rfl | hc
      · exact ⟨by decide, by decide, by decide, by decide, by decide, fun h0 => by omega⟩
      · obtain rfl := List.mem_singleton.1 hc
        exact ⟨by decide, by decide, by decide, by decide, by decide, fun _ => by decide⟩
    rw [writeAll, writeAll, List.intercalate_cons_cons, ← writeAll, List.append_assoc,
      List.append_assoc, enclosed_write t h.1 depth (by omega), Call.enclosed_plain_append hsep]
    exact enclosed_intercalate (u :: ts) h.2 depth hd b
end

/-! ## Braces -/

mutual
/-- The braces of a written tree are balanced. -/
theorem balanced_write {known : String → Bool} : ∀ (t : CallTree), t.WellFormed known →
    ∀ (above : Nat) (b : List Char),
      Template.Balanced above (t.write ++ b) ↔ Template.Balanced above b
  | .quoted s, h, above, b => by
    have hs := Template.balanced_append h.balanced above (Call.quote :: b)
    rw [Nat.zero_add] at hs
    have hw : (CallTree.quoted s).write ++ b = Call.quote :: (s ++ Call.quote :: b) := by
      simp [write, Call.quoted]
    rw [hw, Template.balanced_cons_of_ne (by decide) (by decide), hs,
      Template.balanced_cons_of_ne (by decide) (by decide)]
  | .lookup x, h, above, b => by
    have hx : ∀ c ∈ x, c ≠ '{' ∧ c ≠ '}' := fun c hc =>
      ⟨(h.plain c hc).2.1, (h.plain c hc).2.2.1⟩
    have hw : (CallTree.lookup x).write ++ b = '$' :: '{' :: (x ++ '}' :: b) := by
      simp [write, Template.Segment.write]
    rw [hw, Template.balanced_cons_of_ne (by decide) (by decide)]
    show Template.Balanced (above + 1) (x ++ '}' :: b) ↔ _
    rw [Template.balanced_append_of_forall_ne hx]
    rfl
  | .node q n args, h, above, b => by
    obtain ⟨hq, hn, -, ha⟩ := h
    have hnames : ∀ c ∈ q ++ n, c ≠ '{' ∧ c ≠ '}' := by
      intro c hc
      obtain ⟨-, -, -, h₁, h₂, -⟩ := ne_of_mem_names hq hn hc
      exact ⟨h₁, h₂⟩
    have hw : (CallTree.node q n args).write ++ b
        = (q ++ n) ++ '(' :: ([',', ' '].intercalate (writeAll args) ++ ')' :: b) := by
      simp [write, Call.writeCall]
    rw [hw, Template.balanced_append_of_forall_ne hnames,
      Template.balanced_cons_of_ne (by decide) (by decide), balanced_intercalate args ha,
      Template.balanced_cons_of_ne (by decide) (by decide)]

theorem balanced_intercalate {known : String → Bool} : ∀ (ts : List CallTree),
    AllWellFormed known ts → ∀ (above : Nat) (b : List Char),
      Template.Balanced above ([',', ' '].intercalate (writeAll ts) ++ b)
        ↔ Template.Balanced above b
  | [], _, _, _ => Iff.rfl
  | [t], h, above, b => by
    rw [writeAll, writeAll, List.intercalate_singleton]
    exact balanced_write t h.1 above b
  | t :: u :: ts, h, above, b => by
    have hsep : ∀ c ∈ [',', ' '], c ≠ '{' ∧ c ≠ '}' := by simp
    rw [writeAll, writeAll, List.intercalate_cons_cons, ← writeAll, List.append_assoc,
      List.append_assoc, balanced_write t h.1 above, Template.balanced_append_of_forall_ne hsep]
    exact balanced_intercalate (u :: ts) h.2 above b
end

/-! ## The splitter gives the arguments back -/

/-- What is left of a written argument after its outer quotes are taken off. -/
def argument : CallTree → List Char
  | .quoted s => s
  | .lookup x => (CallTree.lookup x).write
  | .node q n args => (CallTree.node q n args).write

theorem writeAll_eq_map (ts : List CallTree) : writeAll ts = ts.map write := by
  induction ts with
  | nil => rfl
  | cons t ts ih => rw [writeAll, ih, List.map_cons]

theorem trim_write {known : String → Bool} {t : CallTree} (h : t.WellFormed known) :
    Text.trim t.write = t.write := by
  cases t with
  | quoted s => exact Call.trim_quoted s
  | lookup x => exact Template.trim_placeholder x
  | node q n args => exact Call.trim_writeCall h.1 n _

theorem unquote_write {known : String → Bool} {t : CallTree} (h : t.WellFormed known) :
    Call.unquote t.write = t.argument := by
  cases t with
  | quoted s => exact Call.unquote_quoted s
  | lookup x => exact Call.unquote_of_ne (by decide)
  | node q n args =>
    obtain ⟨⟨c, body, rfl, hc, hb⟩, hn, -⟩ := h
    have hq : Call.IsQualifier (c :: body ++ [':']) := ⟨c, body, rfl, hc, hb⟩
    exact Call.unquote_of_ne (ne_of_mem_names hq hn (by simp)).1

theorem write_ne_nil {known : String → Bool} {t : CallTree} (h : t.WellFormed known) :
    t.write ≠ [] := by
  cases t with
  | quoted s => exact List.cons_ne_nil _ _
  | lookup x => exact List.cons_ne_nil _ _
  | node q n args =>
    obtain ⟨⟨c, body, rfl, -, -⟩, -, -⟩ := h
    exact List.cons_ne_nil _ _

theorem mem_of_allWellFormed {known : String → Bool} {ts : List CallTree}
    (h : AllWellFormed known ts) {t : CallTree} (ht : t ∈ ts) : t.WellFormed known := by
  induction ts with
  | nil => simp at ht
  | cons u ts ih =>
    rcases List.mem_cons.1 ht with rfl | ht
    · exact h.1
    · exact ih h.2 ht

/-- Splitting the written arguments of a call gives its arguments. -/
theorem splitArguments_intercalate {known : String → Bool} {ts : List CallTree}
    (h : AllWellFormed known ts) :
    Call.splitArguments ([',', ' '].intercalate (writeAll ts)) = ts.map argument := by
  cases ts with
  | nil => rfl
  | cons t ts =>
    have hclosed : ∀ u ∈ t :: ts, Call.Enclosed false 0 u.write := by
      intro u hu
      have := enclosed_write u (mem_of_allWellFormed h hu) 0 (by omega) []
      rw [List.append_nil] at this
      exact this.2 ⟨rfl, rfl⟩
    have hblank : Call.IsPlain 0 ' ' :=
      ⟨by decide, by decide, by decide, by decide, by decide, fun _ => by decide⟩
    -- every piece but the first has a blank in front, which trimming takes off again
    have hpieces : Call.pieces false 0 ([',', ' '].intercalate (writeAll (t :: ts)))
        = t.write :: ts.map fun u => ' ' :: u.write := by
      rw [writeAll_eq_map, List.map_cons, Call.intercalate_comma_blank, List.map_map]
      apply Call.pieces_intercalate
      intro a ha
      rcases List.mem_cons.1 ha with rfl | ha
      · exact hclosed t (by simp)
      · obtain ⟨u, hu, rfl⟩ := List.mem_map.1 ha
        exact (Call.enclosed_plain_cons hblank).2 (hclosed u (by simp [hu]))
    rw [Call.splitArguments_of_pieces hpieces (by simp [trim_write h.1, write_ne_nil h.1]),
      List.map_cons, List.map_cons, List.map_map, trim_write h.1, unquote_write h.1]
    congr 1
    apply List.map_congr_left
    intro u hu
    have hu := mem_of_allWellFormed h (List.mem_cons_of_mem t hu)
    rw [Function.comp_apply, Text.trim_cons_of_isBlank (by decide), trim_write hu,
      unquote_write hu]

end CallTree
end Rehearsal

import Rehearsal.Markup
import Rehearsal.Proofs.Text.Escape

/-!
# Written documents and their trees

A document is written call by call, with no more in hand than what was written so far and which
elements are open. `Tree.print` says what an element looks like by recursion over what is in it.
Main statement: the calls of a traversal, each element opened before and closed behind what is in
it, write what the recursion says, whatever is mixed with what; an element of text only is the same
as its three calls; and in every sequence of calls the elements that are open are those that were
opened and not closed (`traversal_prints`).
-/

namespace Rehearsal

namespace Markup

/-! ## Calls -/

/-- A call of the writer. -/
inductive Event
  | start (name : String) (attributes : List (String × String))
  | text (s : String)
  | element (name s : String)
  | stop

/-- Make a call. -/
def step (m : Markup) : Event → Except MarkupFault Markup
  | .start name attributes => .ok (m.start name attributes)
  | .text s => .ok (m.text s)
  | .element name s => .ok (m.element name s)
  | .stop => m.stop

/-- Make calls one after the other; none of them may be refused. -/
def write (m : Markup) : List Event → Except MarkupFault Markup
  | [] => .ok m
  | e :: es => do (← m.step e).write es

/-- The document after a call. Where the call is refused there is no other one than before. -/
def after (m : Markup) (e : Event) : Markup :=
  match m.step e with
  | .ok m' => m'
  | .error _ => m

/-- The document after calls, of which some may be refused. -/
def run (m : Markup) (es : List Event) : Markup := es.foldl after m

/-! ## Trees -/

/-- What stands in an element: text, or an element with its attributes and what is in it. -/
inductive Tree
  | text (s : String)
  | element (name : String) (attributes : List (String × String)) (content : List Tree)

def Tree.isElement : Tree → Bool
  | .text _ => false
  | .element _ _ _ => true

mutual
/-- The calls of a traversal: an element is opened, what is in it follows, and it is closed. -/
def Tree.events : Tree → List Event
  | .text s => [.text s]
  | .element name attributes content => .start name attributes :: (eventsOfAll content ++ [.stop])

def eventsOfAll : List Tree → List Event
  | [] => []
  | t :: ts => t.events ++ eventsOfAll ts
end

/-- An attribute as it is printed. -/
def printAttribute : String × String → List Char
  | (key, value) => " ".toList ++ key.toList ++ "=\"".toList ++ Text.escapeEach value.toList
      ++ "\"".toList

mutual
/-- A tree as it is printed in `depth` elements. An element that has elements in it ends on a line
of its own. -/
def Tree.print (depth : Nat) : Tree → List Char
  | .text s => Text.escapeEach s.toList
  | .element name attributes content =>
    "<".toList ++ name.toList ++ attributes.flatMap printAttribute ++ ">".toList
      ++ printContent (depth + 1) content
      ++ (if content.any Tree.isElement then '\n' :: List.replicate (2 * depth) ' ' else [])
      ++ "</".toList ++ name.toList ++ ">".toList

/-- What is in an element: every element in it begins on a line of its own. -/
def printContent (depth : Nat) : List Tree → List Char
  | [] => []
  | t :: ts =>
    (if t.isElement then '\n' :: List.replicate (2 * depth) ' ' else [])
      ++ t.print depth ++ printContent depth ts
end

/-- What is in no element: an element begins on a new line if anything was written before. -/
def printForest (written : Bool) : List Tree → List Char
  | [] => []
  | .text s :: ts => (Tree.text s).print 0 ++ printForest (written || s ≠ "") ts
  | .element name attributes content :: ts =>
    (if written then ['\n'] else []) ++ (Tree.element name attributes content).print 0
      ++ printForest true ts

/-! ## A traversal writes what the recursion says -/

theorem startTag_eq (name : String) (attributes : List (String × String)) :
    startTag name attributes = "<".toList ++ name.toList ++ attributes.flatMap printAttribute
      ++ ">".toList := by
  have hattribute : (fun p : String × String => attributeText p.1 p.2) = printAttribute := by
    funext p
    simp [attributeText, printAttribute, Text.escapeInTurn_eq]
  simp [startTag, ← hattribute]

theorem endTag_eq (name : String) : endTag name = "</".toList ++ name.toList ++ ">".toList := by
  simp [endTag]

theorem write_cons_of_ok {m m' : Markup} {e : Event} (h : m.step e = .ok m') (es : List Event) :
    m.write (e :: es) = m'.write es := by
  rw [write, h]
  rfl

theorem write_append_of_ok {m m' : Markup} {es : List Event} (h : m.write es = .ok m')
    (fs : List Event) : m.write (es ++ fs) = m'.write fs := by
  induction es generalizing m with
  | nil =>
    cases h
    rfl
  | cons e es ih =>
    cases he : m.step e with
    | error f =>
      rw [write, he] at h
      cases h
    | ok m₁ =>
      rw [write_cons_of_ok he] at h
      rw [List.cons_append, write_cons_of_ok he, ih h]

theorem length_markParent (es : List OpenElement) : (markParent es).length = es.length := by
  cases es <;> rfl

theorem newLine_output {m : Markup} (h : m.output ≠ []) :
    m.newLine.output = m.output ++ '\n' :: List.replicate (2 * m.opened.length) ' ' := by
  simp [newLine, indent, h]

/-- The document with an element on a line of its own. -/
def withElement (m : Markup) (t : Tree) : Markup :=
  { output := m.newLine.output ++ t.print m.opened.length, opened := m.newLine.opened }

mutual
/-- An element is written as it is printed, in as many elements as are open. -/
theorem write_element : ∀ (t : Tree), t.isElement = true → ∀ (m : Markup),
    m.write t.events = .ok (m.withElement t)
  | .element name attributes content, _, m => by
    have hout : (m.start name attributes).output ≠ [] := by simp [start, startTag]
    have hopened : (m.start name attributes).opened = ⟨name, false⟩ :: m.newLine.opened := rfl
    have hlength : m.newLine.opened.length = m.opened.length := length_markParent _
    rw [Tree.events, write_cons_of_ok rfl,
      write_append_of_ok (write_content content _ hopened hout), write_cons_of_ok rfl, write]
    simp [withElement, Tree.print, start, startTag_eq, endTag_eq, hlength, indent]

/-- What is in an element is written as it is printed, and the element knows whether elements were
written in it. -/
theorem write_content : ∀ (ts : List Tree) (m : Markup) {e : OpenElement} {es : List OpenElement},
    m.opened = e :: es → m.output ≠ [] → m.write (eventsOfAll ts)
      = .ok { output := m.output ++ printContent m.opened.length ts,
              opened := { e with hasChildren := e.hasChildren || ts.any Tree.isElement } :: es }
  | [], m, e, es, h, hout => by simp [eventsOfAll, write, printContent, ← h]
  | .text s :: ts, m, e, es, h, hout => by
    have hopened : (m.text s).opened = e :: es := h
    have hout' : (m.text s).output ≠ [] := by simp [text, hout]
    rw [eventsOfAll, Tree.events, List.singleton_append, write_cons_of_ok rfl,
      write_content ts (m.text s) hopened hout']
    simp [text, printContent, Tree.print, Tree.isElement, Text.escapeInTurn_eq]
  | .element name attributes content :: ts, m, e, es, h, hout => by
    have ht := write_element (.element name attributes content) rfl m
    have hopened : (m.withElement (.element name attributes content)).opened
        = { e with hasChildren := true } :: es := by simp [withElement, newLine, h, markParent]
    have hout' : (m.withElement (.element name attributes content)).output ≠ [] := by
      simp [withElement, newLine_output hout]
    rw [eventsOfAll, write_append_of_ok ht, write_content ts (m.withElement _) hopened hout',
      hopened]
    simp [withElement, newLine_output hout, printContent, Tree.isElement, h]
end

theorem isEmpty_append_print {t : Tree} (h : t.isElement = true) (before : List Char)
    (depth : Nat) : (before ++ t.print depth).isEmpty = false := by
  cases t with
  | text s => cases h
  | element name attributes content => simp [Tree.print]

/-- The traversal of what stands in no element. -/
theorem write_forest (ts : List Tree) {m : Markup} (h : m.opened = []) :
    m.write (eventsOfAll ts)
      = .ok { output := m.output ++ printForest (!m.output.isEmpty) ts, opened := [] } := by
  induction ts generalizing m with
  | nil => simp [eventsOfAll, write, printForest, ← h]
  | cons t ts ih =>
    cases t with
    | text s =>
      have hopened : (m.text s).opened = [] := h
      rw [eventsOfAll, Tree.events, List.singleton_append, write_cons_of_ok rfl, ih hopened]
      have hwritten : (!(m.output ++ Text.escapeEach s.toList).isEmpty)
          = (!m.output.isEmpty || s ≠ "") := by
        rw [Bool.eq_iff_iff]
        simp [Text.escapeEach_eq_nil, Decidable.imp_iff_not_or]
      simp only [text, printForest, Tree.print, Text.escapeInTurn_eq, hwritten, List.append_assoc]
    | element name attributes content =>
      have ht := write_element (.element name attributes content) rfl m
      have hopened : (m.withElement (.element name attributes content)).opened = [] := by
        simp [withElement, newLine, h, markParent]
      have hwritten := isEmpty_append_print (t := .element name attributes content) rfl
        m.newLine.output m.opened.length
      rw [eventsOfAll, write_append_of_ok ht, ih hopened]
      simp only [withElement, hwritten]
      simp [newLine, printForest, h, indent]

/-! ## Elements of text only -/

/-- An element of text only is what its three calls write. -/
theorem stop_text_start (m : Markup) (name s : String) :
    ((m.start name []).text s).stop = .ok (m.element name s) := by
  simp [stop, element, start, text]

/-! ## What is open -/

/-- How many calls open an element. -/
def starts (es : List Event) : Nat :=
  es.countP fun
    | .start _ _ => true
    | _ => false

/-- How many calls close an element, where those that are refused do not count. -/
def closings (m : Markup) : List Event → Nat
  | [] => 0
  | .stop :: es => (if m.stop.isOk then 1 else 0) + (m.after .stop).closings es
  | e :: es => (m.after e).closings es

/-- Every call keeps the account: the elements that are open were opened and not closed. -/
theorem length_opened_after (m : Markup) (e : Event) :
    (m.after e).opened.length + m.closings [e] = m.opened.length + starts [e] := by
  cases e with
  | start name attributes => simp [after, step, start, newLine, length_markParent, closings, starts]
  | text s => simp [after, step, text, closings, starts]
  | element name s =>
    simp [after, step, element, newLine, length_markParent, closings, starts]
  | stop =>
    cases h : m.opened with
    | nil => simp [after, step, stop, h, closings, starts, Except.isOk, Except.toBool]
    | cons o os => simp [after, step, stop, h, closings, starts, Except.isOk, Except.toBool]

theorem closings_cons (m : Markup) (e : Event) (es : List Event) :
    m.closings (e :: es) = m.closings [e] + (m.after e).closings es := by
  cases e <;> simp [closings]

theorem length_opened_run (m : Markup) (es : List Event) :
    (m.run es).opened.length + m.closings es = m.opened.length + starts es := by
  induction es generalizing m with
  | nil => rfl
  | cons e es ih =>
    have he := length_opened_after m e
    have hes := ih (m.after e)
    have hstarts : starts (e :: es) = starts [e] + starts es := by
      rw [starts, starts, starts, ← List.countP_append]
      rfl
    rw [closings_cons, hstarts]
    show ((m.after e).run es).opened.length + _ = _
    omega

theorem stop_eq_error_iff {m : Markup} : (∃ fault, m.stop = .error fault) ↔ m.opened = [] := by
  rw [stop]
  cases m.opened <;> simp

/-- A call that closes nothing changes nothing. -/
theorem after_stop_of_nil {m : Markup} (h : m.opened = []) : m.after .stop = m := by
  rw [after, step, stop, h]

theorem run_concat_stop (m : Markup) (es : List Event) :
    m.run (es ++ [.stop]) = (m.run es).after .stop := by
  rw [run, List.foldl_append]
  rfl

theorem finish_eq_ok_iff {m : Markup} : (∃ s, m.finish = .ok s) ↔ m.opened = [] := by
  rw [finish]
  cases m.opened <;> simp

/-! ## The main statement -/

/-- The traversal of a document writes the document that is printed; an element of text only is its
three calls; and in every sequence of calls, refused ones among them, the elements that are open are
as many as were opened and not closed, closing one is refused exactly if there is none, which
changes nothing, and the document is finished exactly if there is none. -/
theorem traversal_prints :
    (∀ ts : List Tree, (write {} (eventsOfAll ts)).bind finish
      = .ok (String.ofList (printForest false ts)))
    ∧ ∀ es : List Event,
      (∀ name s, (((run {} es).start name []).text s).stop = .ok ((run {} es).element name s))
      ∧ (run {} es).opened.length + closings {} es = starts es
      ∧ ((∃ fault, (run {} es).stop = .error fault)
        ↔ (run {} es).opened = [] ∧ run {} (es ++ [.stop]) = run {} es)
      ∧ ((∃ s, (run {} es).finish = .ok s) ↔ starts es = closings {} es) := by
  refine ⟨fun ts => ?_, fun es => ?_⟩
  · rw [write_forest ts rfl]
    rfl
  · have hcount := length_opened_run {} es
    refine ⟨stop_text_start _, by simpa using hcount, ?_, ?_⟩
    · rw [stop_eq_error_iff, run_concat_stop]
      exact ⟨fun h => ⟨h, after_stop_of_nil h⟩, And.left⟩
    · rw [finish_eq_ok_iff, ← List.length_eq_zero_iff]
      simp only [List.length_nil, Nat.zero_add] at hcount
      omega

/-- Text behind an element stands on the line on which the element ends. -/
example : printForest false [.text "<", .element "a" [("k", "'")]
      [.text "x", .element "b" [] [.text "y"], .text "z"]]
    = "&lt;\n<a k=\"&apos;\">x\n  <b>y</b>z\n</a>".toList := by
  decide

end Markup
end Rehearsal

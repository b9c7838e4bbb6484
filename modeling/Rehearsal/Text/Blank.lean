/-!
# Blank characters and trimming

The blank characters are those of the Unicode property `White_Space`. `trim` cuts the maximal
blank runs off both ends of a text; the text in between is kept as it is. Main statements: the
trimmed text begins with no blank (`head_trimLeft`), trimming never lengthens a text
(`length_trim_le`), and a text without blank ends is its own trimming (`trim_eq_self`).
-/

namespace Rehearsal.Text

/-- The characters of the Unicode property `White_Space`. -/
def isBlank (c : Char) : Bool :=
  let n := c.toNat
  (9 ≤ n && n ≤ 13) || n == 0x20 || n == 0x85 || n == 0xA0 || n == 0x1680
    || (0x2000 ≤ n && n ≤ 0x200A) || n == 0x2028 || n == 0x2029 || n == 0x202F || n == 0x205F
    || n == 0x3000

/-- Drop the leading run of blanks. -/
def trimLeft (cs : List Char) : List Char := cs.dropWhile isBlank

/-- Drop the trailing run of blanks. -/
def trimRight (cs : List Char) : List Char := (cs.reverse.dropWhile isBlank).reverse

/-- Drop the runs of blanks at both ends. -/
def trim (cs : List Char) : List Char := trimRight (trimLeft cs)

/-- A text that consists of blanks only. -/
def isAllBlank (cs : List Char) : Bool := cs.all isBlank

theorem length_dropWhile_le {α : Type} (p : α → Bool) (l : List α) :
    (l.dropWhile p).length ≤ l.length := (l.dropWhile_sublist p).length_le

theorem length_lt_of_dropWhile {α : Type} {p : α → Bool} {l r : List α} {a : α}
    (h : l.dropWhile p = a :: r) : r.length < l.length := by
  have := length_dropWhile_le p l
  rw [h, List.length_cons] at this
  exact this

theorem length_trimLeft_le (cs : List Char) : (trimLeft cs).length ≤ cs.length :=
  length_dropWhile_le _ _

theorem length_trimRight_le (cs : List Char) : (trimRight cs).length ≤ cs.length := by
  simpa [trimRight] using length_dropWhile_le isBlank cs.reverse

/-- Trimming never lengthens a text. -/
theorem length_trim_le (cs : List Char) : (trim cs).length ≤ cs.length :=
  Nat.le_trans (length_trimRight_le _) (length_trimLeft_le _)

/-- Where leading blanks were dropped, the first character left is no blank. -/
theorem head_trimLeft {cs r : List Char} {c : Char} (h : trimLeft cs = c :: r) :
    isBlank c = false := by
  induction cs with
  | nil => simp [trimLeft] at h
  | cons a as ih =>
    unfold trimLeft at h ih
    rw [List.dropWhile_cons] at h
    split at h
    · exact ih h
    · next hb => cases h; simpa using hb

theorem trimLeft_eq_self {cs : List Char} (h : ∀ c ∈ cs.head?, isBlank c = false) :
    trimLeft cs = cs := by
  cases cs with
  | nil => rfl
  | cons c r => simp [trimLeft, h c (by simp)]

theorem trimRight_eq_self {cs : List Char} (h : ∀ c ∈ cs.getLast?, isBlank c = false) :
    trimRight cs = cs := by
  have : trimLeft cs.reverse = cs.reverse := trimLeft_eq_self (by simpa using h)
  simp only [trimLeft] at this
  simp [trimRight, this]

/-- A text with no blank at either end is its own trimming. -/
theorem trim_eq_self {cs : List Char} (hl : ∀ c ∈ cs.head?, isBlank c = false)
    (hr : ∀ c ∈ cs.getLast?, isBlank c = false) : trim cs = cs := by
  rw [trim, trimLeft_eq_self hl, trimRight_eq_self hr]

/-- The text without the blanks at its ends. -/
def trimmed (s : String) : String := String.ofList (trim s.toList)

end Rehearsal.Text

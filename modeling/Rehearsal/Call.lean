import Rehearsal.Text.Blank
import Rehearsal.Text.Search
import Rehearsal.Text.Word

/-!
# Calls

A call is written `qualifier:name(argument, …)`: the qualifier names a library, the name something
in it. Arguments are parted by the commas that stand outside single quotes, parentheses and braces;
blanks around an argument and single quotes around all of it are taken off. Main statements: an
argument is no longer than the list it stands in (`length_flatten_splitArguments`), and the
arguments of a call are together at least five characters shorter than the call
(`length_flatten_of_parse?`).
-/

namespace Rehearsal

/-- The name of something in a library, with arguments. -/
structure Call where
  /-- The name of the library, up to and with its colon; empty for the library without a name. -/
  qualifier : String
  name : String
  args : List (List Char)
  deriving DecidableEq, Repr

namespace Call

/-- The single quote. -/
def quote : Char := '\x27'

/-! ### Arguments -/

/-- How many brackets are open after a character. The count has no bound here; one of 32 bits would
tell a list with `2 ^ 31` open brackets apart. -/
def depthAfter (depth : Int) (c : Char) : Int :=
  if c = '(' ∨ c = '{' then depth + 1 else if c = ')' ∨ c = '}' then depth - 1 else depth

/-- Put a character in front of the first piece. -/
def consFirst (c : Char) : List (List Char) → List (List Char)
  | [] => [[c]]
  | p :: ps => (c :: p) :: ps

/-- The pieces between the commas outside quotes and brackets, where a quote may be open already and
`depth` brackets are open. -/
def pieces (quoted : Bool) (depth : Int) : List Char → List (List Char)
  | [] => [[]]
  | c :: cs =>
    -- quotes stay in the piece, so that `unquote` can tell whether they stand around all of it
    if c = quote then consFirst c (pieces (!quoted) depth cs)
    else if quoted then consFirst c (pieces true depth cs)
    else if c = ',' ∧ depth = 0 then [] :: pieces false 0 cs
    else consFirst c (pieces false (depthAfter depth c) cs)

/-- Take off the quotes around a text. -/
def unquote (cs : List Char) : List Char :=
  match cs with
  | c :: r => if c = quote ∧ r.getLast? = some quote then r.dropLast else cs
  | [] => []

/-- The arguments of a list. The empty list has none; every other one has as many as pieces. -/
def splitArguments (raw : List Char) : List (List Char) :=
  match pieces false 0 raw with
  | [p] => if (Text.trim p).isEmpty then [] else [unquote (Text.trim p)]
  | ps => ps.map fun p => unquote (Text.trim p)

/-! ### Reading -/

/-- A character of a qualifier behind its first one. -/
def isQualifierChar (c : Char) : Bool := Text.isWord c || c = '.' || c = '-'

/-- A qualifier with its colon, and the text behind it. -/
def readQualifier? : List Char → Option (List Char × List Char)
  | [] => none
  | c :: r =>
    if Text.isNameStart c then
      match r.dropWhile isQualifierChar with
      | ':' :: rest => some (c :: r.takeWhile isQualifierChar ++ [':'], rest)
      | _ => none
    else none

/-- A name, and the text behind it. -/
def readName? : List Char → Option (List Char × List Char)
  | [] => none
  | c :: r =>
    if Text.isNameStart c then some (c :: r.takeWhile Text.isWord, r.dropWhile Text.isWord)
    else none

/-- The inside of a text in parentheses, up to the last one. -/
def readParenthesized? : List Char → Option (List Char)
  | '(' :: r => if r.getLast? = some ')' then some r.dropLast else none
  | _ => none

/-- Read a call; none if the text has another shape. -/
def parse? (expression : List Char) : Option Call := do
  let (qualifier, r) ← readQualifier? (Text.trim expression)
  let (name, r) ← readName? r
  let raw ← readParenthesized? r
  return ⟨String.ofList qualifier, String.ofList name, splitArguments raw⟩

/-- The name together with its qualifier. -/
def qualifiedName (c : Call) : String := c.qualifier ++ c.name

/-! ### Lengths -/

theorem length_flatten_consFirst (c : Char) (ps : List (List Char)) :
    (consFirst c ps).flatten.length = ps.flatten.length + 1 := by
  cases ps with
  | nil => rfl
  | cons p ps => simp only [consFirst, List.flatten_cons, List.cons_append, List.length_cons]

/-- The pieces are together no longer than the list. -/
theorem length_flatten_pieces (quoted : Bool) (depth : Int) (cs : List Char) :
    (pieces quoted depth cs).flatten.length ≤ cs.length := by
  fun_induction pieces quoted depth cs with
  | case1 => exact Nat.le_refl 0
  | case2 _ _ _ ih => rw [length_flatten_consFirst]; exact Nat.succ_le_succ ih
  | case3 _ _ _ _ ih => rw [length_flatten_consFirst]; exact Nat.succ_le_succ ih
  | case4 _ _ _ _ _ _ _ ih => exact Nat.le_succ_of_le ih
  | case5 _ _ _ _ _ _ _ ih => rw [length_flatten_consFirst]; exact Nat.succ_le_succ ih

theorem length_unquote_le (cs : List Char) : (unquote cs).length ≤ cs.length := by
  unfold unquote
  split
  · split <;> simp
    omega
  · simp

theorem length_flatten_map_le {α : Type} (f : List α → List α) (h : ∀ p, (f p).length ≤ p.length)
    (ps : List (List α)) : (ps.map f).flatten.length ≤ ps.flatten.length := by
  induction ps with
  | nil => exact Nat.le_refl 0
  | cons p ps ih =>
    simp only [List.map_cons, List.flatten_cons, List.length_append]
    exact Nat.add_le_add (h p) ih

theorem length_unquote_trim_le (p : List Char) : (unquote (Text.trim p)).length ≤ p.length :=
  Nat.le_trans (length_unquote_le _) (Text.length_trim_le p)

/-- The arguments are together no longer than the list. -/
theorem length_flatten_splitArguments (raw : List Char) :
    (splitArguments raw).flatten.length ≤ raw.length := by
  have hp := length_flatten_pieces false 0 raw
  unfold splitArguments
  split
  · next p h =>
    rw [h] at hp
    simp only [List.flatten_cons, List.flatten_nil, List.append_nil] at hp
    split
    · exact Nat.zero_le _
    · simp only [List.flatten_cons, List.flatten_nil, List.append_nil]
      exact Nat.le_trans (length_unquote_trim_le p) hp
  · exact Nat.le_trans (length_flatten_map_le _ length_unquote_trim_le _) hp

theorem length_of_readQualifier? {cs q r : List Char} (h : readQualifier? cs = some (q, r)) :
    q.length + r.length = cs.length ∧ 2 ≤ q.length := by
  cases cs with
  | nil => simp [readQualifier?] at h
  | cons c cs =>
    simp only [readQualifier?] at h
    split at h
    · split at h
      · next rest hd =>
        simp only [Option.some.injEq, Prod.mk.injEq] at h
        obtain ⟨rfl, rfl⟩ := h
        have := congrArg List.length
          (List.takeWhile_append_dropWhile (p := isQualifierChar) (l := cs))
        simp only [hd, List.length_append, List.length_cons] at this
        simp only [List.length_append, List.length_cons, List.length_nil]
        omega
      · simp at h
    · simp at h

theorem length_of_readName? {cs n r : List Char} (h : readName? cs = some (n, r)) :
    n.length + r.length = cs.length ∧ 1 ≤ n.length := by
  cases cs with
  | nil => simp [readName?] at h
  | cons c cs =>
    simp only [readName?] at h
    split at h
    · simp only [Option.some.injEq, Prod.mk.injEq] at h
      obtain ⟨rfl, rfl⟩ := h
      have := congrArg List.length (List.takeWhile_append_dropWhile (p := Text.isWord) (l := cs))
      simp only [List.length_append] at this
      simp only [List.length_cons]
      omega
    · simp at h

theorem length_of_readParenthesized? {cs raw : List Char} (h : readParenthesized? cs = some raw) :
    raw.length + 2 = cs.length := by
  unfold readParenthesized? at h
  split at h
  · next r =>
    split at h
    · next hl =>
      simp only [Option.some.injEq] at h
      subst h
      have : r ≠ [] := by rintro rfl; simp at hl
      have := List.length_pos_iff.2 this
      simp only [List.length_dropLast, List.length_cons]
      omega
    · simp at h
  · simp at h

/-- The arguments of a call are together at least five characters shorter than the call. -/
theorem length_flatten_of_parse? {cs : List Char} {c : Call} (h : parse? cs = some c) :
    c.args.flatten.length + 5 ≤ cs.length := by
  simp only [parse?, Option.bind_eq_bind, Option.bind_eq_some_iff, Prod.exists] at h
  obtain ⟨q, r, hq, n, r', hn, raw, hr, hc⟩ := h
  cases hc
  have := length_of_readQualifier? hq
  have := length_of_readName? hn
  have := length_of_readParenthesized? hr
  have := length_flatten_splitArguments raw
  have := Text.length_trim_le cs
  simp only
  omega

end Call
end Rehearsal

import Rehearsal.CharClass.Property
import Rehearsal.Text.CaseTable

/-!
# Letter case

`upper` and `lower` are the full case maps of Unicode 17.0 without any language's own rules: a
character may become several, and a capital sigma becomes its final form at the end of a word.
Comparisons that know ASCII only are `equalIgnoringAsciiCase` and `asciiUpper`.
-/

namespace Rehearsal.Text

/-- The upper-case form of a character. -/
def upperChar (c : Char) : List Char :=
  if c.toNat < 128 then [c.toUpper]
  else
    match longUppers.find? (fun e => e.1 = c.toNat) with
    | some (_, form) => form.map Char.ofNat
    | none => [Char.ofNat (mapRuns upperRuns c.toNat)]

/-- The upper-case form of a text. -/
def upper (cs : List Char) : List Char := cs.flatMap upperChar

/-- The lower-case form of a character, apart from the final sigma. -/
def lowerChar (c : Char) : List Char :=
  if c.toNat < 128 then [c.toLower]
  else if c.toNat = 0x130 then [Char.ofNat 0x69, Char.ofNat 0x307]
  else [Char.ofNat (mapRuns lowerRuns c.toNat)]

/-- The cased characters of Unicode 17.0: of those of 16.0 one has lost its case. -/
def cased : CharClass :=
  (CharClass.cased.union (.ofText "A7CE-A7CF A7D2 A7D4 A7F1 16EA0-16EB8 16EBB-16ED3")).diff
    (.ofText "295")

/-- What the case of a word does not depend on in Unicode 17.0. -/
def caseIgnorable : CharClass :=
  CharClass.caseIgnorable.union (.ofText "
    1ACF-1ADD 1AE0-1AEB A7F1 10EC5 10EFA-10EFB 11B60 11B62-11B64 11B66 11DD9 16FF2-16FF3 1E6E3 1E6E6
    1E6EE-1E6EF 1E6F5 1E6FF")

def isCased (c : Char) : Bool := cased.has c.toNat

def isCaseIgnorable (c : Char) : Bool := caseIgnorable.has c.toNat

/-- Past what case ignores, does the text go on with a cased letter? -/
def meetsCased (cs : List Char) : Bool :=
  match cs.dropWhile isCaseIgnorable with
  | [] => false
  | c :: _ => isCased c

/-- The lower-case form of `cs`, where `before` is what stands in front, the last character
first. -/
def lowerAfter (before : List Char) : List Char → List Char
  | [] => []
  | c :: cs =>
    (if c.toNat = 0x3A3 then
      [Char.ofNat (if meetsCased before && !meetsCased cs then 0x3C2 else 0x3C3)]
    else lowerChar c) ++ lowerAfter (c :: before) cs

/-- The lower-case form of a text. -/
def lower (cs : List Char) : List Char := lowerAfter [] cs

/-- Equality of texts up to the case of ASCII letters. -/
def equalIgnoringAsciiCase (a b : List Char) : Bool := a.map Char.toLower == b.map Char.toLower

/-- A text with its ASCII letters in upper case. -/
def asciiUpper (s : String) : String := String.ofList (s.toList.map Char.toUpper)

end Rehearsal.Text

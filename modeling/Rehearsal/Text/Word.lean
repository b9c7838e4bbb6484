import Rehearsal.CharClass.Property

/-!
# Word characters

The word characters are those of the Unicode properties `Alphabetic`, `Mark`, `Decimal_Number`,
`Connector_Punctuation` and `Join_Control`; the digits are those of `Decimal_Number`. Main
statements: the letters, digits and low line of ASCII are word characters
(`isWord_of_isAsciiWord`), and so is every character that begins an identifier
(`isWord_of_isNameStart`).
-/

namespace Rehearsal

namespace CharClass

/-- The characters of words. -/
def word : CharClass := unions [alphabetic, mark, decimalNumber, connectorPunctuation, joinControl]

/-- The characters of words in ASCII. -/
def asciiWord : CharClass := ofText "30-39 41-5A 5F 61-7A"

end CharClass

namespace Text

/-- The alphabetic characters that Unicode 17.0 has added. -/
def newAlphabetic : CharClass := .ofText "
  88F C5C CDC A7CE-A7CF A7D2 A7D4 A7F1 10940-10959 10EC5-10EC7 10EFA-10EFB 11B60-11B67 11DB0-11DDB
  16EA0-16EB8 16EBB-16ED3 16FF2-16FF6 187F8-187FF 18D09-18D1E 18D80-18DF2 1E6C0-1E6DE 1E6E0-1E6F5
  1E6FE-1E6FF 2B73A-2B73F 2CEA2-2CEAD 323B0-33479"

/-- The numbers that Unicode 17.0 has added. -/
def newNumber : CharClass := .ofText "11DE0-11DE9 16FF4-16FF6"

/-- The characters of the property `Alphabetic` in Unicode 17.0. -/
def isAlphabetic (c : Char) : Bool := CharClass.alphabetic.has c.toNat || newAlphabetic.has c.toNat

/-- The characters of the categories of numbers in Unicode 17.0. -/
def isNumeric (c : Char) : Bool := CharClass.number.has c.toNat || newNumber.has c.toNat

/-- The word characters of ASCII. -/
def isAsciiWord (c : Char) : Bool := c.isAlphanum || c = '_'

/-- A character of a word. -/
def isWord (c : Char) : Bool := isAsciiWord c || (c.toNat > 127 && CharClass.word.has c.toNat)

/-- A character that begins an identifier: a letter of ASCII or the low line. -/
def isNameStart (c : Char) : Bool := c.isAlpha || c = '_'

theorem isWord_of_isAsciiWord {c : Char} (h : isAsciiWord c = true) : isWord c = true := by
  simp [isWord, h]

theorem isWord_of_isNameStart {c : Char} (h : isNameStart c = true) : isWord c = true := by
  apply isWord_of_isAsciiWord
  simp only [isNameStart, isAsciiWord, Char.isAlphanum, Bool.or_eq_true, decide_eq_true_eq] at h ⊢
  rcases h with h | h
  · exact Or.inl (Or.inl h)
  · exact Or.inr h

end Text
end Rehearsal

import Rehearsal.CharClass.Property
import Rehearsal.CharClass.WritingSystem

/-!
# Where texts may be broken

Three classifications of Unicode 16.0 that tell where a text may be broken: between what readers see
as characters (`graphemeBreaks`), between words (`wordBreaks`) and between sentences
(`sentenceBreaks`). Each lists its classes with their two names; a character is in one class at
most.
-/

namespace Rehearsal.CharClass

/-! ### Between characters -/

/-- The code points from AC00 to D7A3 hold the syllables of Hangul: nineteen first consonants times
twenty-one vowels times twenty-seven last consonants or none. Those without a last consonant. -/
def openSyllable : CharClass :=
  ofRanges ((List.range (19 * 21)).map fun i => (0xAC00 + 28 * i, 0xAC00 + 28 * i))

/-- The syllables of Hangul with a last consonant. -/
def closedSyllable : CharClass :=
  ofRanges ((List.range (19 * 21)).map fun i => (0xAC01 + 28 * i, 0xAC1B + 28 * i))

/-- What stands alone, and nothing can be attached to it. -/
def controlBreak : CharClass :=
  (unions [lineSeparator, paragraphSeparator, control, format,
    unassigned.inter defaultIgnorable]).diff
    (unions [ofChars ['\r', '\n'], joinControl, prependedConcatenationMark, graphemeExtend])

/-- Spacing marks that do not attach to what stands before them. -/
def freeStandingMark : CharClass := ofText "
  102B-102C 1038 1062-1064 1067-106D 1083 1087-108C 108F 109A-109C 1A61 1A63-1A64 AA7B AA7D
  11720-11721"

def attachedMark : CharClass :=
  ((spacingMark.diff graphemeExtend).diff freeStandingMark).union (ofText "E33 EB3")

/-- Letters that attach to what stands behind them. -/
def prependedLetter : CharClass := ofText "
  D4E 111C2-111C3 113D1 1193F 11941 11A3A 11A84-11A89 11D46 11F02"

/-- The classes of breaks between characters. -/
def graphemeBreaks : List (List String × CharClass) :=
  [(["CR"], single '\r'),
    (["LF"], single '\n'),
    (["CN", "Control"], controlBreak),
    (["EX", "Extend"], graphemeExtend.union emojiModifier),
    (["ZWJ"], ofText "200D"),
    (["PP", "Prepend"], prependedConcatenationMark.union prependedLetter),
    (["RI", "Regional_Indicator"], regionalIndicator),
    (["SM", "SpacingMark"], attachedMark),
    (["L"], ofText "1100-115F A960-A97C"),
    (["V"], ofText "1160-11A7 D7B0-D7C6 16D63 16D67-16D6A"),
    (["T"], ofText "11A8-11FF D7CB-D7FB"),
    (["LV"], openSyllable),
    (["LVT"], closedSyllable)]

/-! ### Between words -/

/-- The signs of Katakana, with what is written like them. -/
def katakanaBreak : CharClass := ofText "
  3031-3035 309B-309C 30A0-30FA 30FC-30FF 31F0-31FF 32D0-32FE 3300-3357 FF66-FF9D 1AFF0-1AFF3
  1AFF5-1AFFB 1AFFD-1AFFE 1B000 1B120-1B122 1B155 1B164-1B167"

def hebrewLetter : CharClass := ofText "
  5D0-5EA 5EF-5F2 FB1D FB1F-FB28 FB2A-FB36 FB38-FB3C FB3E FB40-FB41 FB43-FB44 FB46-FB4F"

/-- What belongs to the word or sentence of the character before it. -/
def extending : CharClass :=
  (unions [graphemeExtend, spacingMark, emojiModifier]).diff (ofText "200D")

/-- The writing systems whose words are not told apart by blanks, and which are broken by other
means. -/
def wordlessSystems : List String :=
  ["Thai", "Lao", "Myanmar", "Khmer", "Tai_Le", "New_Tai_Lue", "Tai_Tham", "Tai_Viet", "Ahom",
    "Hiragana"]

/-- The characters of the writing systems without words. -/
def wordless : CharClass :=
  unions ((WritingSystem.all.filter fun w => wordlessSystems.contains w.name).map (·.set))

/-- What counts as a letter of a word without being alphabetic. -/
def wordSign : CharClass := ofText "
  2C2-2C5 2D2-2D7 2DE-2DF 2E5-2EB 2ED 2EF-2FF 55A-55C 55E 58A 5F3 70F A708-A716 A720-A721 A789-A78A
  AB5B"

/-- The letters of words. -/
def wordLetter : CharClass :=
  (alphabetic.diff (unions [ideographic, wordless, katakanaBreak, hebrewLetter, extending])).union
    wordSign

/-- Numbers with the marks that are written around them. -/
def numeric : CharClass :=
  (unions [decimalNumber, prependedConcatenationMark, ofText "66B 19DA"]).diff (ofText "70F")

/-- The classes of breaks between words. -/
def wordBreaks : List (List String × CharClass) :=
  [(["CR"], single '\r'),
    (["LF"], single '\n'),
    (["NL", "Newline"], ofText "B-C 85 2028-2029"),
    (["ZWJ"], ofText "200D"),
    (["WSegSpace"], ofText "20 1680 2000-2006 2008-200A 205F 3000"),
    (["SQ", "Single_Quote"], ofText "27"),
    (["DQ", "Double_Quote"], single '"'),
    (["HL", "Hebrew_Letter"], hebrewLetter),
    (["KA", "Katakana"], katakanaBreak),
    (["LE", "ALetter"], wordLetter),
    (["ML", "MidLetter"], midLetter),
    (["MB", "MidNumLet"], midNumberLetter),
    (["MN", "MidNum"], ofText "2C 3B 37E 589 60C-60D 66C 7F8 2044 FE50 FE54 FF0C FF1B"),
    (["NU", "Numeric"], numeric),
    (["EX", "ExtendNumLet"], ofText "5F 202F 203F-2040 2054 FE33-FE34 FE4D-FE4F FF3F"),
    (["Extend"], extending),
    (["RI", "Regional_Indicator"], regionalIndicator),
    (["FO", "Format"], ofText "
      AD 61C 180E 200E-200F 202A-202E 2060-2064 2066-206F FEFF FFF9-FFFB 13430-1343F 1BCA0-1BCA3
      1D173-1D17A E0001")]

/-! ### Between sentences -/

/-- The marks that close a sentence if the next one begins behind them. -/
def fullStop : CharClass := ofText "2E 2024 FE52 FF0E"

def sentenceMark : CharClass := sentenceTerminal.diff fullStop

def sentenceExtending : CharClass := unions [graphemeExtend, spacingMark, ofText "200D"]

def paragraphBreak : CharClass := ofText "85 2028-2029"

/-- Small letters, apart from those of Georgian, whose great letters begin no sentence. -/
def sentenceLower : CharClass := (lowercase.diff graphemeExtend).diff (ofText "10D0-10FA 10FD-10FF")

/-- Letters that may begin a sentence. -/
def sentenceUpper : CharClass :=
  (titlecaseLetter.union uppercase).diff (ofText "1C90-1CBA 1CBD-1CBF")

def sentenceLetter : CharClass :=
  (alphabetic.union (ofText "5F3")).diff (unions [sentenceLower, sentenceUpper, sentenceExtending])

/-- Quotation marks and brackets. -/
def closingMark : CharClass :=
  (unions [openPunctuation, closePunctuation, initialPunctuation, finalPunctuation, quotationMark,
    ofText "275B-2760 2E00-2E01 2E06-2E08 2E0B 1F676-1F678"]).diff (ofText "FF02 FF07")

/-- The classes of breaks between sentences. -/
def sentenceBreaks : List (List String × CharClass) :=
  [(["CR"], single '\r'),
    (["LF"], single '\n'),
    (["SE", "Sep"], paragraphBreak),
    (["SP", "Sp"], whiteSpace.diff (paragraphBreak.union (ofChars ['\r', '\n']))),
    (["EX", "Extend"], sentenceExtending),
    (["FO", "Format"], ofText "
      AD 61C 70F 180E 200B 200E-200F 202A-202E 2060-2064 2066-206F FEFF FFF9-FFFB 13430-1343F
      1BCA0-1BCA3 1D173-1D17A E0001"),
    (["LO", "Lower"], sentenceLower),
    (["UP", "Upper"], sentenceUpper),
    (["LE", "OLetter"], sentenceLetter),
    (["NU", "Numeric"], numeric.union (ofText "66C")),
    (["AT", "ATerm"], fullStop),
    (["SC", "SContinue"], ofText "
      2C-2D 3A-3B 37E 55D 60C-60D 7F8 1802 1808 2013-2014 3001 FE10-FE11 FE13-FE14 FE31-FE32
      FE50-FE51 FE54-FE55 FE58 FE63 FF0C-FF0D FF1A-FF1B FF64"),
    (["ST", "STerm"], sentenceMark),
    (["CL", "Close"], closingMark)]

end Rehearsal.CharClass

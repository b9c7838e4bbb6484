import Rehearsal.CharClass.Age
import Rehearsal.CharClass.Break

/-!
# Sets of characters by name

The sets that a pattern may ask for by name: those of a property, of a general category or of a
writing system (`ofName?`), and those of a property that takes a value (`ofValue?`). Names are
compared loosely: case, blanks, hyphens, low lines and a leading `is` do not count.
-/

namespace Rehearsal.CharClass

/-- What counts of a name. -/
def looseName (name : List Char) : List Char :=
  let letters (cs : List Char) : List Char :=
    (cs.filter fun c => c.toNat < 128 && c != ' ' && c != '_' && c != '-').map Char.toLower
  match name with
  | a :: b :: r =>
    if a.toLower = 'i' ∧ b.toLower = 's' then
      if letters r = ['c'] then ['i', 's', 'c'] else letters r
    else letters name
  | _ => letters name

/-- Is this one of the names, loosely? -/
def isNamed (name : List Char) (names : List String) : Bool :=
  names.any fun n => looseName n.toList = name

/-- The set that is listed under a name. -/
def find? (name : List Char) (sets : List (List String × CharClass)) : Option CharClass :=
  (sets.find? fun (names, _) => isNamed name names).map (·.2)

/-- The general categories and their groups, with their short and their long names, and three sets
that are named like them. -/
def categories : List (List String × CharClass) :=
  [(["Any"], all),
    (["ASCII"], ascii),
    (["Assigned"], unassigned.compl),
    (["L", "Letter"], letter),
    (["LC", "Cased_Letter"], casedLetter),
    (["Lu", "Uppercase_Letter"], uppercaseLetter),
    (["Ll", "Lowercase_Letter"], lowercaseLetter),
    (["Lt", "Titlecase_Letter"], titlecaseLetter),
    (["Lm", "Modifier_Letter"], modifierLetter),
    (["Lo", "Other_Letter"], otherLetter),
    (["M", "Mark", "Combining_Mark"], mark),
    (["Mn", "Nonspacing_Mark"], nonspacingMark),
    (["Mc", "Spacing_Mark"], spacingMark),
    (["Me", "Enclosing_Mark"], enclosingMark),
    (["N", "Number"], number),
    (["Nd", "Decimal_Number", "digit"], decimalNumber),
    (["Nl", "Letter_Number"], letterNumber),
    (["No", "Other_Number"], otherNumber),
    (["P", "Punctuation", "punct"], punctuation),
    (["Pc", "Connector_Punctuation"], connectorPunctuation),
    (["Pd", "Dash_Punctuation"], dashPunctuation),
    (["Ps", "Open_Punctuation"], openPunctuation),
    (["Pe", "Close_Punctuation"], closePunctuation),
    (["Pi", "Initial_Punctuation"], initialPunctuation),
    (["Pf", "Final_Punctuation"], finalPunctuation),
    (["Po", "Other_Punctuation"], otherPunctuation),
    (["S", "Symbol"], symbol),
    (["Sm", "Math_Symbol"], mathSymbol),
    (["Sc", "Currency_Symbol"], currencySymbol),
    (["Sk", "Modifier_Symbol"], modifierSymbol),
    (["So", "Other_Symbol"], otherSymbol),
    (["Z", "Separator"], separator),
    (["Zs", "Space_Separator"], spaceSeparator),
    (["Zl", "Line_Separator"], lineSeparator),
    (["Zp", "Paragraph_Separator"], paragraphSeparator),
    (["C", "Other"], other),
    (["Cc", "Control", "cntrl"], control),
    (["Cf", "Format"], format),
    (["Co", "Private_Use"], privateUse),
    (["Cn", "Unassigned"], unassigned)]

/-- The writing system of a name. -/
def writingSystem? (name : List Char) : Option WritingSystem :=
  WritingSystem.all.find? fun w => isNamed name (w.name :: w.codes)

/-- The set of a property, a general category or a writing system. -/
def ofName? (name : List Char) : Option CharClass :=
  let name := looseName name
  (find? name properties).or
    ((find? name categories).or ((writingSystem? name).map (·.set)))

/-- The set of a property with a value. -/
def ofValue? (property value : List Char) : Option CharClass :=
  let property := looseName property
  let value := looseName value
  if isNamed property ["gc", "General_Category"] then find? value categories
  else if isNamed property ["sc", "Script"] then (writingSystem? value).map (·.set)
  else if isNamed property ["scx", "Script_Extensions"] then
    (writingSystem? value).map (·.extended)
  else if isNamed property ["Age"] then upTo? (isNamed value) versions
  else if isNamed property ["GCB", "Grapheme_Cluster_Break"] then find? value graphemeBreaks
  else if isNamed property ["WB", "Word_Break"] then find? value wordBreaks
  else if isNamed property ["SB", "Sentence_Break"] then find? value sentenceBreaks
  else none

end Rehearsal.CharClass

import RecordAudit.Unicode.Category
import RecordAudit.Unicode.Listed

/-!
# Properties of code points

The yes-or-no properties of code points.  Some have a list of their own; the others follow
from these and from the general category.
-/

namespace RecordAudit.Unicode

/-- A property that a code point has or has not. -/
inductive Property where
  | listed (p : Listed)
  | alphabetic
  | lowercase
  | uppercase
  | cased
  | caseIgnorable
  | changesWhenCasemapped
  | math
  | defaultIgnorableCodePoint
  | graphemeExtend
  | graphemeBase
  | idStart
  | idContinue
  | xidStart
  | xidContinue
deriving Repr, DecidableEq

namespace Property

/-- The members of some categories and of some listed properties. -/
def together (categories : List Category) (properties : List Listed) : CodeSet :=
  (Category.union categories).union (.ofRanges (properties.flatMap fun p => p.members.ranges))

/-- The categories and listed properties whose members are cased. -/
def casedMembers : CodeSet :=
  together [.uppercaseLetter, .lowercaseLetter, .titlecaseLetter] [.otherUppercase, .otherLowercase]

/-- What extends the grapheme before it. -/
def extendMembers : CodeSet := together [.nonspacingMark, .enclosingMark] [.otherGraphemeExtend]

/-- What never stands in an identifier. -/
def syntaxMembers : CodeSet := together [] [.patternSyntax, .patternWhiteSpace]

/-- What begins an identifier. -/
def idStartMembers : CodeSet :=
  (together (.letterNumber :: Category.letters) [.otherIdStart]).diff syntaxMembers

/-- What goes on with an identifier. -/
def idContinueMembers : CodeSet :=
  ((together [.nonspacingMark, .spacingMark, .decimalNumber, .connectorPunctuation]
    [.otherIdContinue]).diff syntaxMembers).union idStartMembers

/-- What takes the place of a letter or quote inside a word. -/
def midWord : CodeSet := .ofTable ["27 2E 3A B7 387 55F 5F4 2018-2019 2024 2027 FE13 FE52 FE55",
  "FF07 FF0E FF1A"]

/-- What is no part of an identifier once its compatibility form is taken. -/
def unstable : CodeSet := .ofTable ["37A 309B-309C FC5E-FC63 FDFA-FDFB FE70:FE7E"]

/-- What begins no identifier once its compatibility form is taken. -/
def unstableAtStart : CodeSet := unstable.union (.ofTable ["E33 EB3 FF9E-FF9F"])

/-- The members of a property. -/
def members : Property → CodeSet
  | listed p => p.members
  | alphabetic =>
    together (.letterNumber :: Category.letters)
      [.otherAlphabetic, .otherUppercase, .otherLowercase]
  | lowercase => together [.lowercaseLetter] [.otherLowercase]
  | uppercase => together [.uppercaseLetter] [.otherUppercase]
  | cased => casedMembers
  | caseIgnorable =>
    (Category.union [.nonspacingMark, .enclosingMark, .format, .modifierLetter,
      .modifierSymbol]).union midWord
  | changesWhenCasemapped =>
    together [] [.changesWhenLowercased, .changesWhenUppercased, .changesWhenTitlecased]
  | math => together [.mathSymbol] [.otherMath]
  | defaultIgnorableCodePoint =>
    (together [.format] [.otherDefaultIgnorableCodePoint, .variationSelector]).diff
      ((together [] [.whiteSpace, .prependedConcatenationMark]).union
        (.ofTable ["FFF9-FFFB 13430-13440"]))
  | graphemeExtend => extendMembers
  | graphemeBase =>
    CodeSet.complement
      ((Category.union (.lineSeparator :: .paragraphSeparator :: Category.others)).union
        extendMembers)
  | idStart => idStartMembers
  | idContinue => idContinueMembers
  | xidStart => idStartMembers.diff unstableAtStart
  | xidContinue => idContinueMembers.diff unstable

/-- The properties that follow from others, with their names. -/
def derived : List (List String × Property) := [
  (["Alpha", "Alphabetic"], .alphabetic),
  (["Lower", "Lowercase"], .lowercase),
  (["Upper", "Uppercase"], .uppercase),
  (["Cased"], .cased),
  (["CI", "Case_Ignorable"], .caseIgnorable),
  (["CWCM", "Changes_When_Casemapped"], .changesWhenCasemapped),
  (["Math"], .math),
  (["DI", "Default_Ignorable_Code_Point"], .defaultIgnorableCodePoint),
  (["Gr_Ext", "Grapheme_Extend"], .graphemeExtend),
  (["Gr_Base", "Grapheme_Base"], .graphemeBase),
  (["IDS", "ID_Start"], .idStart),
  (["IDC", "ID_Continue"], .idContinue),
  (["XIDS", "XID_Start"], .xidStart),
  (["XIDC", "XID_Continue"], .xidContinue)]

/-- Every property with its names. -/
def named : List (List String × Property) :=
  derived ++ Listed.named.map fun (names, p) => (names, .listed p)

end Property

end RecordAudit.Unicode

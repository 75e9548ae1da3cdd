import RecordAudit.Unicode.Property
import RecordAudit.Unicode.Script

/-!
# Classes for the division of texts

A text is divided into graphemes, words and sentences by the classes of its code points.
Each kind of division has classes of its own; a code point without one of them is named in
no list here.
-/

namespace RecordAudit.Unicode

/-- The code points of a table of one line. -/
def codePoints (line : String) : CodeSet := .ofTable [line]

/-- The members of the scripts with some short names. -/
def scriptMembers (codes : List String) : CodeSet :=
  .ofRanges ((Script.all.filter fun s => s.names.any codes.contains).flatMap
    fun s => s.members.ranges)

/-- What a text in division skips: marks, and what extends a grapheme. -/
def combining : CodeSet :=
  Property.extendMembers.union (Category.union [.spacingMark])

/-! ## Graphemes -/

/-- A class for the division into graphemes. -/
inductive GraphemeBreak where
  | carriageReturn
  | lineFeed
  | control
  | extend
  | zeroWidthJoiner
  | regionalIndicator
  | prepend
  | spacingMark
  | hangulL
  | hangulV
  | hangulT
  | hangulLV
  | hangulLVT
deriving Repr, DecidableEq

namespace GraphemeBreak

/-- The first code points of the blocks of Hangul syllables with the same first two sounds; the
syllable without a third one comes first. -/
def syllableBlocks : List Nat := (List.range 399).map fun i => 0xAC00 + 28 * i

/-- The members of a class. -/
def members : GraphemeBreak → CodeSet
  | carriageReturn => codePoints "D"
  | lineFeed => codePoints "A"
  | control =>
    (Category.union [.lineSeparator, .paragraphSeparator, .control, .format]).union
        ((Category.union [.unassigned]).inter (Property.members .defaultIgnorableCodePoint))
      |>.diff ((codePoints "A D 200C-200D E0020-E007F").union
        (Listed.members .prependedConcatenationMark))
  | extend => Property.extendMembers.union (Listed.members .emojiModifier)
  | zeroWidthJoiner => codePoints "200D"
  | regionalIndicator => Listed.members .regionalIndicator
  | prepend =>
    (Listed.members .prependedConcatenationMark).union
      (codePoints "D4E 111C2-111C3 113D1 1193F 11941 11A3A 11A84-11A89 11D46 11F02")
  | spacingMark =>
    ((Category.union [.spacingMark]).diff Property.extendMembers).diff
        (.ofTable ["102B-102C 1038 1062-1064 1067-106D 1083 1087-108C 108F 109A-109C 1A61",
          "1A63-1A64 AA7B AA7D 11720-11721"])
      |>.union (codePoints "E33 EB3")
  | hangulL => codePoints "1100-115F A960-A97C"
  | hangulV => codePoints "1160-11A7 D7B0-D7C6 16D63 16D67-16D6A"
  | hangulT => codePoints "11A8-11FF D7CB-D7FB"
  | hangulLV => .ofRanges (syllableBlocks.map fun n => (n, n))
  | hangulLVT => .ofRanges (syllableBlocks.map fun n => (n + 1, n + 27))

/-- Every class with its names. -/
def named : List (List String × GraphemeBreak) := [
  (["CR"], .carriageReturn),
  (["LF"], .lineFeed),
  (["CN", "Control"], .control),
  (["EX", "Extend"], .extend),
  (["ZWJ"], .zeroWidthJoiner),
  (["RI", "Regional_Indicator"], .regionalIndicator),
  (["PP", "Prepend"], .prepend),
  (["SM", "SpacingMark"], .spacingMark),
  (["L"], .hangulL),
  (["V"], .hangulV),
  (["T"], .hangulT),
  (["LV"], .hangulLV),
  (["LVT"], .hangulLVT)]

end GraphemeBreak

/-! ## Words -/

/-- A class for the division into words. -/
inductive WordBreak where
  | carriageReturn
  | lineFeed
  | newline
  | extend
  | zeroWidthJoiner
  | format
  | regionalIndicator
  | katakana
  | hebrewLetter
  | letter
  | singleQuote
  | doubleQuote
  | midNumberOrLetter
  | midLetter
  | midNumber
  | numeric
  | joinsNumbersAndLetters
  | space
deriving Repr, DecidableEq

namespace WordBreak

/-- The letters of Katakana and the signs that are written among them. -/
def katakanaMembers : CodeSet :=
  (scriptMembers ["Kana"]).union (codePoints "3031-3035 309B-309C 30A0 30FC FF70")

/-- The letters of Hebrew. -/
def hebrewMembers : CodeSet := (scriptMembers ["Hebr"]).inter (Category.union [.otherLetter])

/-- The scripts that write no spaces between words. -/
def unspacedScripts : List String :=
  ["Thai", "Laoo", "Mymr", "Khmr", "Tale", "Talu", "Lana", "Tavt", "Ahom"]

/-- The letters of words that spaces divide. -/
def letterMembers : CodeSet :=
  (((Property.members .alphabetic).diff (Listed.members .ideographic)).diff
      ((scriptMembers ("Hira" :: unspacedScripts)).union
        ((katakanaMembers.union hebrewMembers).union combining)))
    |>.union (.ofTable ["2C2-2C5 2D2-2D7 2DE-2DF 2E5-2EB 2ED 2EF-2FF 55A-55C 55E 58A 5F3 70F",
      "A708-A716 A720-A721 A789-A78A AB5B"])

/-- The members of a class. -/
def members : WordBreak → CodeSet
  | carriageReturn => codePoints "D"
  | lineFeed => codePoints "A"
  | newline => codePoints "B-C 85 2028-2029"
  | extend =>
    (combining.union (Listed.members .emojiModifier)).diff (codePoints "200D")
  | zeroWidthJoiner => codePoints "200D"
  | format =>
    (Category.union [.format]).diff ((codePoints "200B-200D E0020-E007F").union
      (Listed.members .prependedConcatenationMark))
  | regionalIndicator => Listed.members .regionalIndicator
  | katakana => katakanaMembers
  | hebrewLetter => hebrewMembers
  | letter => letterMembers
  | singleQuote => codePoints "27"
  | doubleQuote => codePoints "22"
  | midNumberOrLetter => codePoints "2E 2018-2019 2024 FE52 FF07 FF0E"
  | midLetter => codePoints "3A B7 387 55F 5F4 2027 FE13 FE55 FF1A"
  | midNumber => codePoints "2C 3B 37E 589 60C-60D 66C 7F8 2044 FE50 FE54 FF0C FF1B"
  | numeric =>
    (Category.union [.decimalNumber]).union
      (codePoints "600-605 66B 6DD 890-891 8E2 19DA 110BD 110CD")
  | joinsNumbersAndLetters =>
    (Category.union [.connectorPunctuation]).union (codePoints "202F")
  | space => (Category.union [.spaceSeparator]).diff (codePoints "A0 2007 202F")

/-- Every class with its names. -/
def named : List (List String × WordBreak) := [
  (["CR"], .carriageReturn),
  (["LF"], .lineFeed),
  (["NL", "Newline"], .newline),
  (["Extend"], .extend),
  (["ZWJ"], .zeroWidthJoiner),
  (["FO", "Format"], .format),
  (["RI", "Regional_Indicator"], .regionalIndicator),
  (["KA", "Katakana"], .katakana),
  (["HL", "Hebrew_Letter"], .hebrewLetter),
  (["LE", "ALetter"], .letter),
  (["SQ", "Single_Quote"], .singleQuote),
  (["DQ", "Double_Quote"], .doubleQuote),
  (["MB", "MidNumLet"], .midNumberOrLetter),
  (["ML", "MidLetter"], .midLetter),
  (["MN", "MidNum"], .midNumber),
  (["NU", "Numeric"], .numeric),
  (["EX", "ExtendNumLet"], .joinsNumbersAndLetters),
  (["WSegSpace"], .space)]

end WordBreak

/-! ## Sentences -/

/-- A class for the division into sentences. -/
inductive SentenceBreak where
  | carriageReturn
  | lineFeed
  | separator
  | extend
  | format
  | space
  | lower
  | upper
  | otherLetter
  | numeric
  | fullStop
  | terminal
  | goesOn
  | close
deriving Repr, DecidableEq

namespace SentenceBreak

/-- Small letters; those of Georgian count for neither case. -/
def lowerMembers : CodeSet :=
  ((Property.members .lowercase).diff Property.extendMembers).diff
    (codePoints "10D0-10FA 10FD-10FF")

/-- Capital letters; those of Georgian count for neither case. -/
def upperMembers : CodeSet :=
  ((Property.members .uppercase).union (Category.union [.titlecaseLetter])).diff
    (codePoints "1C90-1CBA 1CBD-1CBF")

/-- What extends what is before it. -/
def extendMembers : CodeSet := combining.union (codePoints "200D")

/-- What ends a sentence or an abbreviation. -/
def fullStopMembers : CodeSet := codePoints "2E 2024 FE52 FF0E"

/-- The members of a class. -/
def members : SentenceBreak → CodeSet
  | carriageReturn => codePoints "D"
  | lineFeed => codePoints "A"
  | separator => codePoints "85 2028-2029"
  | extend => extendMembers
  | format =>
    (Category.union [.format]).diff
      (codePoints "600-605 6DD 890-891 8E2 200C-200D 110BD 110CD E0020-E007F")
  | space => (Listed.members .whiteSpace).diff (codePoints "A D 85 2028-2029")
  | lower => lowerMembers
  | upper => upperMembers
  | otherLetter =>
    ((Property.members .alphabetic).union (codePoints "5F3")).diff
      ((lowerMembers.union upperMembers).union extendMembers)
  | numeric =>
    (Category.union [.decimalNumber]).union
      (codePoints "600-605 66B-66C 6DD 890-891 8E2 19DA 110BD 110CD")
  | fullStop => fullStopMembers
  | terminal => (Listed.members .sentenceTerminal).diff fullStopMembers
  | goesOn =>
    .ofTable ["2C-2D 3A-3B 37E 55D 60C-60D 7F8 1802 1808 2013-2014 3001 FE10-FE11 FE13-FE14",
      "FE31-FE32 FE50-FE51 FE54-FE55 FE58 FE63 FF0C-FF0D FF1A-FF1B FF64"]
  | close =>
    (Category.union [.openPunctuation, .closePunctuation, .initialPunctuation,
      .finalPunctuation]).union (codePoints "22 27 275B-2760 2E00-2E01 2E06-2E08 2E0B 1F676-1F678")

/-- Every class with its names. -/
def named : List (List String × SentenceBreak) := [
  (["CR"], .carriageReturn),
  (["LF"], .lineFeed),
  (["SE", "Sep"], .separator),
  (["EX", "Extend"], .extend),
  (["FO", "Format"], .format),
  (["Sp"], .space),
  (["LO", "Lower"], .lower),
  (["UP", "Upper"], .upper),
  (["LE", "OLetter"], .otherLetter),
  (["NU", "Numeric"], .numeric),
  (["AT", "ATerm"], .fullStop),
  (["ST", "STerm"], .terminal),
  (["SC", "SContinue"], .goesOn),
  (["CL", "Close"], .close)]

end SentenceBreak

end RecordAudit.Unicode

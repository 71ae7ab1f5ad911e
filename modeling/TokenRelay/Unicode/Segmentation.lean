import TokenRelay.Unicode.Property
import TokenRelay.Unicode.Script

/-!
# Code points by what breaks text around them

Each code point has a class for the breaks between displayed characters, between words and
between sentences.  Here the classes are composed of properties and general categories,
with lists of the exceptions.  The tables are those of version 16.0 of the Unicode standard.
-/

namespace TokenRelay.Unicode.Segmentation

/-- Tags, which are format characters that extend what they follow. -/
def tagged : CodePoints :=
  .between 0xE0020 0xE007F

/-- Marks that extend the character before them, and those that stand beside it. -/
def extending : CodePoints :=
  graphemeExtend.union Category.spacingMark.members

/-- Controls, separators of lines and what is ignored without a category. -/
def controls : CodePoints :=
  (CodePoints.unionAll
    [Category.membersOf [.control, .lineSeparator, .paragraphSeparator, .format],
      Category.unassigned.inter Listed.defaultIgnorable.members]).without
    (.unionAll
      [.ofText "A D 200C-200D", Listed.prependedConcatenationMark.members, tagged])

/-- Marks that stand beside the character they belong to. -/
def besideMarks : CodePoints :=
  ((Category.spacingMark.members.without graphemeExtend).union (.ofText "E33 EB3")).without
    (.ofText
      "102B-102C 1038 1062-1064 1067-106D 1083 1087-108C 108F 109A-109C 1A61 1A63-1A64
       AA7B AA7D 11720-11721")

/-- Syllables of a leading consonant and a vowel. -/
def openSyllables : CodePoints :=
  .unionAll ((List.range 399).map fun count => .single (0xAC00 + 28 * count))

/-- The code points of a class of breaks between displayed characters. -/
def character? (name : String) : Option CodePoints :=
  match name with
  | "cr" => some (.single 0xD)
  | "lf" => some (.single 0xA)
  | "cn" | "control" => some controls
  | "ex" | "extend" => some (graphemeExtend.union Listed.emojiModifier.members)
  | "zwj" => some (.single 0x200D)
  | "ri" | "regionalindicator" => some Listed.regionalIndicator.members
  | "pp" | "prepend" =>
    some
      (Listed.prependedConcatenationMark.members.union
        (.ofText "D4E 111C2-111C3 113D1 1193F 11941 11A84-11A89 11D46 11F02"))
  | "sm" | "spacingmark" => some besideMarks
  | "l" => some (.ofText "1100-115F A960-A97C")
  | "v" => some (.ofText "1160-11A7 D7B0-D7C6 16D63 16D67-16D6A")
  | "t" => some (.ofText "11A8-11FF D7CB-D7FB")
  | "lv" => some openSyllables
  | "lvt" => some ((CodePoints.between 0xAC00 0xD7A3).without openSyllables)
  | _ => none

/-- Katakana and what is used among it. -/
def katakana : CodePoints :=
  (Script.setIn Script.tables "katakana").union (.ofText "3031-3035 309B-309C 30A0 30FC FF70")

/-- The letters of Hebrew, which a quotation mark may stand between. -/
def hebrewLetters : CodePoints :=
  (Script.setIn Script.tables "hebrew").inter Category.otherLetter.members

/-- The letters of scripts whose words are told apart by blanks. -/
def spacedLetters : CodePoints :=
  ((alphabetic.without
    (.unionAll
      [Listed.ideographic.members, katakana, hebrewLetters, extending,
        Listed.emojiModifier.members, Script.setIn Script.tables "hiragana",
        Script.setIn Script.tables "thai", Script.setIn Script.tables "lao"])).union
    (.ofText
      "2C2-2C5 2D2-2D7 2DE-2DF 2E5-2EB 2ED 2EF-2FF 55A-55C 55E 58A 5F3 A708-A716 A720-A721
       A789-A78A AB5B")).without
    (.ofText
      "1000-102A 103F 1050-1055 105A-105D 1061 1065-1066 106E-1070 1075-1081 108E
       1780-17B3 17D7 17DC 1950-196D 1970-1974 1980-19AB 19B0-19C9 1A20-1A54 1AA7
       A9E0-A9E4 A9E6-A9EF A9FA-A9FE AA60-AA76 AA7A AA7E-AAAF AAB1 AAB5-AAB6 AAB9-AABD
       AAC0 AAC2 AADB-AADD 11700-1171A 11740-11746")

/-- The code points of a class of breaks between words. -/
def word? (name : String) : Option CodePoints :=
  match name with
  | "cr" => some (.single 0xD)
  | "lf" => some (.single 0xA)
  | "nl" | "newline" => some (.ofText "B-C 85 2028-2029")
  | "zwj" => some (.single 0x200D)
  | "dq" | "doublequote" => some (.single 0x22)
  | "sq" | "singlequote" => some (.single 0x27)
  | "ri" | "regionalindicator" => some Listed.regionalIndicator.members
  | "ka" | "katakana" => some katakana
  | "hl" | "hebrewletter" => some hebrewLetters
  | "le" | "aletter" => some spacedLetters
  | "ex" | "extendnumlet" =>
    some (.ofText "5F 202F 203F-2040 2054 FE33-FE34 FE4D-FE4F FF3F")
  | "nu" | "numeric" => some (Category.decimalNumber.members.insert 0x66B)
  | "mn" | "midnum" =>
    some (.ofText "2C 3B 37E 589 60C-60D 66C 7F8 2044 FE10 FE14 FE50 FE54 FF0C FF1B")
  | "ml" | "midletter" => some (.ofText "3A B7 387 55F 5F4 2027 FE13 FE55 FF1A")
  | "mb" | "midnumlet" => some (.ofText "2E 2018-2019 2024 FE52 FF07 FF0E")
  | "fo" | "format" =>
    some (Category.format.members.without ((CodePoints.between 0x200B 0x200D).union tagged))
  | "extend" => some (extending.union Listed.emojiModifier.members)
  | "wsegspace" => some (Category.spaceSeparator.members.without (.ofText "A0 2007 202F"))
  | _ => none

/-- What ends a sentence unless a word goes on after it. -/
def stops : CodePoints :=
  .ofText "2E 2024 FE52 FF0E"

/-- The characters that end a line or a paragraph. -/
def paragraphBreaks : CodePoints :=
  .ofText "85 2028-2029"

/-- Small letters as sentences have them. -/
def sentenceLower : CodePoints :=
  lowercase.without (extending.union (.ofText "10D0-10FA 10FD-10FF"))

/-- Capital letters as sentences have them. -/
def sentenceUpper : CodePoints :=
  (uppercase.union Category.titlecaseLetter.members).without
    (extending.union (.ofText "1C90-1CBA 1CBD-1CBF"))

/-- The code points of a class of breaks between sentences. -/
def sentence? (name : String) : Option CodePoints :=
  match name with
  | "cr" => some (.single 0xD)
  | "lf" => some (.single 0xA)
  | "se" | "sep" => some paragraphBreaks
  | "sp" =>
    some (Listed.whiteSpace.members.without (paragraphBreaks.union (.ofText "A D")))
  | "ex" | "extend" => some (extending.insert 0x200D)
  | "fo" | "format" =>
    some (Category.format.members.without ((CodePoints.between 0x200C 0x200D).union tagged))
  | "lo" | "lower" => some sentenceLower
  | "up" | "upper" => some sentenceUpper
  | "le" | "oletter" =>
    some
      ((alphabetic.without
        (.unionAll [sentenceLower, sentenceUpper, extending.insert 0x200D])).insert 0x5F3)
  | "nu" | "numeric" =>
    some (Category.decimalNumber.members.union (.between 0x66B 0x66C))
  | "at" | "aterm" => some stops
  | "st" | "sterm" => some (Listed.sentenceTerminal.members.without stops)
  | "cl" | "close" =>
    some
      ((CodePoints.unionAll
        [Category.membersOf
          [.openPunctuation, .closePunctuation, .initialPunctuation, .finalPunctuation],
          Listed.quotationMark.members,
          .ofText "275B-2760 2E00-2E01 2E06-2E08 2E0B 1F676-1F678"]).without
        (.ofText "FF02 FF07"))
  | "sc" | "scontinue" =>
    some
      (.ofText
        "2C-2D 3A-3B 37E 55D 60C-60D 7F8 1802 1808 2013-2014 3001 FE10-FE11 FE13-FE14
         FE31-FE32 FE50-FE51 FE54-FE55 FE58 FE63 FF0C-FF0D FF1A-FF1B FF64")
  | _ => none

end TokenRelay.Unicode.Segmentation

import DocStubs.Text.Property.Named
import DocStubs.Text.Script

/-!
# Breaks in a text

The rules for the ends of letters with their marks, of words and of sentences look at the class of
every character. Each kind of break has its own classes, and some names of classes are shared.
The rest of the characters is of no class.

## Main definitions

* `Break.grapheme?` — the classes for the ends of letters with their marks
* `Break.word?` — the classes for the ends of words
* `Break.sentence?` — the classes for the ends of sentences
-/

namespace DocStubs

namespace Break

/-- Classes with their names in small letters and without blanks. -/
abbrev Classes := List (List String × CharSet)

/-- The class with a given name. -/
def Classes.find? (classes : Classes) (name : String) : Option CharSet :=
  (List.find? (·.1.contains name) classes).map (·.2)

/-! ### Shared classes -/

/-- The carriage return. -/
def carriageReturn : CharSet := .single 0xD

/-- The line feed. -/
def lineFeed : CharSet := .single 0xA

/-- The control that joins two pictures. -/
def joiner : CharSet := .single 0x200D

/-- Spacing marks. -/
def spacingMarks : CharSet := Category.starting "Mc"

/-- Format controls that stand before digits, or are tags or joiners. -/
def numericControls : CharSet :=
  .ofText "600-605 6DD 890-891 8E2 200C-200D 110BD 110CD E0020-E007F"

/-- Characters that count as digits although they are none. -/
def digitLike : CharSet := .ofText "600-605 66B 6DD 890-891 8E2 19DA 110BD 110CD"

/-- Full stops that may also stand inside a number. -/
def fullStops : CharSet := .ofText "2E 2024 FE52 FF0E"

/-! ### Letters with their marks -/

/-- Spacing marks that extend the character before, or do not belong to it. -/
def otherSpacingMarks : CharSet :=
  .ofText <| String.join [
    "9BE 9D7 B3E B57 BBE BD7 CC0 CC2 CC7-CC8 CCA-CCB CD5-CD6 D3E D57 DCF DDF 102B-102C 1038 ",
    "1062-1064 1067-106D 1083 1087-108C 108F 109A-109C 1715 1734 1A61 1A63-1A64 1B35 1B3B 1B3D ",
    "1B43-1B44 1BAA 1BF2-1BF3 302E-302F A953 A9C0 AA7B AA7D 111C0 11235 1133E 1134D 11357 113B8 ",
    "113C2 113C5 113C7-113C9 113CF 114B0 114BD 115AF 116B6 11720-11721 11930 1193D 11F41 ",
    "16FF0-16FF1 1D165-1D166 1D16D-1D172"]

/-- Marks and letters that belong to the character after them. -/
def prepended : CharSet :=
  Property.prependedMarks.union
    (.ofText "D4E 111C2-111C3 113D1 1193F 11941 11A3A 11A84-11A89 11D46 11F02")

/-- Controls at which a letter always ends. -/
def controls : CharSet :=
  let all := CharSet.unions [Category.starting "Cc", Category.starting "Cf",
    Category.starting "Zl", Category.starting "Zp",
    (Category.starting "Cn").intersection Property.ignorable]
  all.difference (.unions [carriageReturn, lineFeed, joiner, Property.graphemeExtenders,
    Property.prependedMarks])

/-- The first syllable of Hangul. -/
def firstSyllable : Nat := 0xAC00

/-- Syllables of Hangul without a final consonant: every twenty-eighth one. -/
def openSyllables : CharSet :=
  .ofRanges ((List.range 399).map fun i => ⟨firstSyllable + 28 * i, firstSyllable + 28 * i⟩)

/-- Syllables of Hangul with a final consonant. -/
def closedSyllables : CharSet :=
  (CharSet.range firstSyllable (firstSyllable + 399 * 28 - 1)).difference openSyllables

/-- The classes for the ends of letters with their marks. -/
def graphemes : Classes :=
  [(["cr"], carriageReturn),
    (["lf"], lineFeed),
    (["control", "cn"], controls),
    (["extend", "ex"], Property.graphemeExtenders.union Property.emojiModifiers),
    (["zwj"], joiner),
    (["prepend", "pp"], prepended),
    (["spacingmark", "sm"],
      (spacingMarks.difference otherSpacingMarks).union (.ofText "E33 EB3")),
    (["regionalindicator", "ri"], Property.regionalIndicators),
    (["l"], .ofText "1100-115F A960-A97C"),
    (["v"], .ofText "1160-11A7 D7B0-D7C6 16D63 16D67-16D6A"),
    (["t"], .ofText "11A8-11FF D7CB-D7FB"),
    (["lv"], openSyllables),
    (["lvt"], closedSyllables)]

/-- The class for the ends of letters with a given name. -/
def grapheme? (name : String) : Option CharSet := graphemes.find? name

/-! ### Words -/

/-- Hebrew letters. -/
def hebrewLetters : CharSet := (Script.members "Hebr").intersection Property.letters

/-- Katakana and the marks used with it. -/
def katakana : CharSet :=
  (Script.members "Kana").union (.ofText "3031-3035 309B-309C 30A0 30FC FF70")

/-- Letters of scripts that part words by other means than blanks. -/
def unspacedLetters : CharSet :=
  .ofText <| String.join [
    "E01-E30 E32-E33 E40-E46 E81-E82 E84 E86-E8A E8C-EA3 EA5 EA7-EB0 EB2-EB3 EBD EC0-EC4 EC6 ",
    "EDC-EDF 1000-102A 103F 1050-1055 105A-105D 1061 1065-1066 106E-1070 1075-1081 108E ",
    "1780-17B3 17D7 17DC 1950-196D 1970-1974 1980-19AB 19B0-19C9 1A20-1A54 1AA7 A9E0-A9E4 ",
    "A9E6-A9EF A9FA-A9FE AA60-AA76 AA7A AA7E-AAAF AAB1 AAB5-AAB6 AAB9-AABD AAC0 AAC2 AADB-AADD ",
    "11700-1171A 11740-11746"]

/-- Characters that count as letters of words although they are not alphabetic. -/
def letterLike : CharSet :=
  .ofText <| String.join [
    "2C2-2C5 2D2-2D7 2DE-2DF 2E5-2EB 2ED 2EF-2FF 55A-55C 55E 58A 5F3 70F A708-A716 A720-A721 ",
    "A789-A78A AB5B"]

/-- Marks that belong to the character before, spacing or not. -/
def attached : CharSet := Property.graphemeExtenders.union spacingMarks

/-- Letters of words. -/
def wordLetters : CharSet :=
  (Property.alphabetic.difference (.unions [Property.ideographs, katakana, Script.members "Hira",
    attached, hebrewLetters, unspacedLetters])).union letterLike

/-- The classes for the ends of words. -/
def words : Classes :=
  [(["cr"], carriageReturn),
    (["lf"], lineFeed),
    (["newline", "nl"], .ofText "B-C 85 2028-2029"),
    (["extend"], attached.union Property.emojiModifiers),
    (["zwj"], joiner),
    (["format", "fo"],
      (Category.starting "Cf").difference (numericControls.union (.ofText "70F 200B"))),
    (["regionalindicator", "ri"], Property.regionalIndicators),
    (["katakana", "ka"], katakana),
    (["hebrewletter", "hl"], hebrewLetters),
    (["aletter", "le"], wordLetters),
    (["singlequote", "sq"], .single 0x27),
    (["doublequote", "dq"], .single 0x22),
    (["midletter", "ml"], .ofText "3A B7 387 55F 5F4 2027 FE13 FE55 FF1A"),
    (["midnum", "mn"], .ofText "2C 3B 37E 589 60C-60D 66C 7F8 2044 FE50 FE54 FF0C FF1B"),
    (["midnumlet", "mb"], .ofText "2E 2018-2019 2024 FE52 FF07 FF0E"),
    (["numeric", "nu"], (Category.starting "Nd").union digitLike),
    (["extendnumlet", "ex"], (Category.starting "Pc").union (.single 0x202F)),
    (["wsegspace"], .ofText "20 1680 2000-2006 2008-200A 205F 3000")]

/-- The class for the ends of words with a given name. -/
def word? (name : String) : Option CharSet := words.find? name

/-! ### Sentences -/

/-- Small letters of sentences; Georgian letters have no case there. -/
def smallLetters : CharSet :=
  Property.lowercase.difference
    (Property.graphemeExtenders.union (.ofText "10D0-10FA 10FD-10FF"))

/-- Capital letters of sentences; Georgian letters have no case there. -/
def capitalLetters : CharSet :=
  (Property.uppercase.union Property.titleLetters).difference (.ofText "1C90-1CBA 1CBD-1CBF")

/-- Letters of sentences that have no case. -/
def caselessLetters : CharSet :=
  (Property.alphabetic.difference (.unions [smallLetters, capitalLetters, attached])).union
    (.single 0x5F3)

/-- Brackets and quotes. -/
def closing : CharSet :=
  .unions [Category.starting "Ps", Category.starting "Pe", Category.starting "Pi",
    Category.starting "Pf", .ofText "22 27 275B-2760 2E00-2E01 2E06-2E08 2E0B 1F676-1F678"]

/-- The classes for the ends of sentences. -/
def sentences : Classes :=
  [(["cr"], carriageReturn),
    (["lf"], lineFeed),
    (["extend", "ex"], attached.union joiner),
    (["sep", "se"], .ofText "85 2028-2029"),
    (["format", "fo"], (Category.starting "Cf").difference numericControls),
    (["sp"], Property.blanks.difference (.ofText "A D 85 2028-2029")),
    (["lower", "lo"], smallLetters),
    (["upper", "up"], capitalLetters),
    (["oletter", "le"], caselessLetters),
    (["numeric", "nu"], .unions [Category.starting "Nd", digitLike, .single 0x66C]),
    (["aterm", "at"], fullStops),
    (["scontinue", "sc"],
      .ofText <| String.join [
        "2C-2D 3A-3B 37E 55D 60C-60D 7F8 1802 1808 2013-2014 3001 FE10-FE11 FE13-FE14 ",
        "FE31-FE32 FE50-FE51 FE54-FE55 FE58 FE63 FF0C-FF0D FF1A-FF1B FF64"]),
    (["sterm", "st"], Property.sentenceTerminals.difference fullStops),
    (["close", "cl"], closing)]

/-- The class for the ends of sentences with a given name. -/
def sentence? (name : String) : Option CharSet := sentences.find? name

end Break

end DocStubs

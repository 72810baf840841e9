import DocStubs.Text.Category
import DocStubs.Text.Property.Lists

/-!
# Properties of characters

Sets of characters that are made from the general categories and the lists, and all properties of
characters by their names.

The breaks between letters, words and sentences are in `DocStubs.Text.Break`.

## Main definitions

* `Property.alphabetic`, `Property.uppercase`, `Property.lowercase`, `Property.cased`
* `Property.changesWhenLowered`, `Property.changesWhenFolded`, … — characters that a change of case
  affects
* `Property.nameStarts`, `Property.nameParts` — the characters of names
* `Property.patternWord` — the word characters of patterns
* `Property.named?` — the property with a given name
-/

namespace DocStubs

namespace Property

/-! ### Letters and cases -/

/-- Letters. -/
def letters : CharSet := Category.starting "L"

/-- Capital letters for two letters, of which only the first one is a capital. -/
def titleLetters : CharSet := Category.starting "Lt"

/-- Letters, numbers made of letters, and the marks and symbols listed as alphabetic. -/
def alphabetic : CharSet := .unions [letters, Category.starting "Nl", otherAlphabetic]

/-- Small letters and what counts as such. -/
def lowercase : CharSet := (Category.starting "Ll").union otherLowercase

/-- Capital letters and what counts as such. -/
def uppercase : CharSet := (Category.starting "Lu").union otherUppercase

/-- Characters that are of some case. -/
def cased : CharSet := .unions [lowercase, uppercase, titleLetters]

/-- Punctuation that stands inside a word. -/
def innerPunctuation : CharSet :=
  .ofText "27 2E 3A B7 387 55F 5F4 2018-2019 2024 2027 FE13 FE52 FE55 FF07 FF0E FF1A"

/-- Characters that may stand between a cased one and the next without parting them. -/
def caseIgnorable : CharSet :=
  .unions [Category.starting "Mn", Category.starting "Me", Category.starting "Cf",
    Category.starting "Lm", Category.starting "Sk", innerPunctuation]

/-- Characters with another small form. -/
def changesWhenLowered : CharSet := (uppercase.union titleLetters).difference withoutLowercase

/-- Characters with another capital form. -/
def changesWhenRaised : CharSet := (lowercase.union titleLetters).difference withoutUppercase

/-- Characters with another title form. -/
def changesWhenTitled : CharSet :=
  ((changesWhenRaised.difference titleLetters).difference untitled).union titledCapitals

/-- Characters with another folded form. -/
def changesWhenFolded : CharSet :=
  (changesWhenLowered.difference unfoldedCapitals).union foldedSmall

/-- Characters with another form in some case. -/
def changesWhenMapped : CharSet :=
  .unions [changesWhenLowered, changesWhenRaised, changesWhenTitled]

/-! ### Names -/

/-- Characters that start a name. -/
def nameStarts : CharSet :=
  ((CharSet.unions [letters, Category.starting "Nl", otherNameStarts]).difference
    patternSigns).difference patternBlanks

/-- Characters that continue a name. -/
def nameParts : CharSet :=
  ((CharSet.unions [nameStarts, Category.starting "Mn", Category.starting "Mc",
    Category.starting "Nd", Category.starting "Pc", otherNameParts]).difference
      patternSigns).difference patternBlanks

/-- Characters that start a name, also in their compatibility form. -/
def stableNameStarts : CharSet := nameStarts.difference nameStartExceptions

/-- Characters that continue a name, also in their compatibility form. -/
def stableNameParts : CharSet := nameParts.difference namePartExceptions

/-! ### Other properties -/

/-- Mathematical characters. -/
def math : CharSet := (Category.starting "Sm").union otherMath

/-- Characters that extend the one before. -/
def graphemeExtenders : CharSet :=
  .unions [Category.starting "Mn", Category.starting "Me", otherGraphemeExtenders]

/-- Visible characters that extend no other one. -/
def graphemeBases : CharSet :=
  (CharSet.unions [Category.starting "C", Category.starting "Zl", Category.starting "Zp",
    graphemeExtenders]).complement

/-- Controls between interlinear notes and in hieroglyphs, which are not ignored. -/
def visibleControls : CharSet := .ofText "FFF9-FFFB 13430-13440"

/-- Characters that are ignored where they cannot be shown. -/
def ignorable : CharSet :=
  ((CharSet.unions [otherIgnorable, Category.starting "Cf", variationSelectors]).difference
    (blanks.union visibleControls)).difference prependedMarks

/-- Decimal digits. -/
def decimalDigits : CharSet := Category.starting "Nd"

/-- Word characters of patterns: alphabetic characters, marks, decimal digits, connectors and the
controls of joining. -/
def patternWord : CharSet :=
  .unions [alphabetic, Category.starting "M", decimalDigits, Category.starting "Pc", joinControls]

/-! ### Names of properties -/

/-- All properties with their names in small letters and without blanks. -/
def named : List (List String × CharSet) :=
  [(["asciihexdigit", "ahex"], latinHexDigits), (["alphabetic", "alpha"], alphabetic),
    (["bidicontrol", "bidic"], bidiControls), (["bidimirrored", "bidim"], mirrored),
    (["caseignorable", "ci"], caseIgnorable), (["cased"], cased),
    (["changeswhencasefolded", "cwcf"], changesWhenFolded),
    (["changeswhencasemapped", "cwcm"], changesWhenMapped),
    (["changeswhenlowercased", "cwl"], changesWhenLowered),
    (["changeswhentitlecased", "cwt"], changesWhenTitled),
    (["changeswhenuppercased", "cwu"], changesWhenRaised), (["dash"], dashes),
    (["defaultignorablecodepoint", "di"], ignorable), (["deprecated", "dep"], deprecated),
    (["diacritic", "dia"], diacritics), (["emoji"], emoji),
    (["emojicomponent", "ecomp"], emojiParts), (["emojimodifier", "emod"], emojiModifiers),
    (["emojimodifierbase", "ebase"], emojiBases),
    (["emojipresentation", "epres"], emojiPresentation),
    (["extendedpictographic", "extpict"], pictographs), (["extender", "ext"], extenders),
    (["graphemebase", "grbase"], graphemeBases),
    (["graphemeextend", "grext"], graphemeExtenders),
    (["graphemelink", "grlink"], graphemeLinks), (["hexdigit", "hex"], hexDigits),
    (["hyphen"], hyphens), (["idsbinaryoperator", "idsb"], binaryIdeographSigns),
    (["idstrinaryoperator", "idst"], ternaryIdeographSigns),
    (["idsunaryoperator", "idsu"], unaryIdeographSigns),
    (["idcompatmathcontinue"], mathNameParts), (["idcompatmathstart"], mathNameStarts),
    (["idcontinue", "idc"], nameParts), (["idstart", "ids"], nameStarts),
    (["ideographic", "ideo"], ideographs), (["joincontrol", "joinc"], joinControls),
    (["logicalorderexception", "loe"], orderExceptions), (["lowercase", "lower"], lowercase),
    (["math"], math), (["modifiercombiningmark", "mcm"], modifierMarks),
    (["noncharactercodepoint", "nchar"], noncharacters),
    (["otheralphabetic", "oalpha"], otherAlphabetic),
    (["otherdefaultignorablecodepoint", "odi"], otherIgnorable),
    (["othergraphemeextend", "ogrext"], otherGraphemeExtenders),
    (["otheridcontinue", "oidc"], otherNameParts), (["otheridstart", "oids"], otherNameStarts),
    (["otherlowercase", "olower"], otherLowercase), (["othermath", "omath"], otherMath),
    (["otheruppercase", "oupper"], otherUppercase), (["patternsyntax", "patsyn"], patternSigns),
    (["patternwhitespace", "patws"], patternBlanks),
    (["prependedconcatenationmark", "pcm"], prependedMarks),
    (["quotationmark", "qmark"], quotationMarks), (["radical"], radicals),
    (["regionalindicator", "ri"], regionalIndicators),
    (["sentenceterminal", "sterm"], sentenceTerminals), (["softdotted", "sd"], softDotted),
    (["terminalpunctuation", "term"], terminals),
    (["unifiedideograph", "uideo"], unifiedIdeographs), (["uppercase", "upper"], uppercase),
    (["variationselector", "vs"], variationSelectors),
    (["whitespace", "wspace", "space"], blanks), (["xidcontinue", "xidc"], stableNameParts),
    (["xidstart", "xids"], stableNameStarts)]

/-- The characters with the property of a given name. -/
def named? (name : String) : Option CharSet := (named.find? (·.1.contains name)).map (·.2)

end Property

end DocStubs

import RecordQuery.Text.Category
import RecordQuery.Text.Property.Table

/-! # Properties of characters

The properties that a character has or has not. Some are given by a table, others follow from
general categories and tables in the way that the Unicode standard derives them. -/

namespace RecordQuery.Text.Property

/-- The categories with the given short names. -/
def of (shorts : List String) : CharSet := Category.members shorts

def whiteSpace : CharSet :=
  .ranges [(9, 13), (32, 32), (133, 133), (160, 160), (5760, 5760), (8192, 8202), (8232, 8233),
    (8239, 8239), (8287, 8287), (12288, 12288)]

def lowercase : CharSet := .union (of ["ll"]) (.ranges otherLowercase)

def uppercase : CharSet := .union (of ["lu"]) (.ranges otherUppercase)

def cased : CharSet := .unions [lowercase, uppercase, of ["lt"]]

/-- Letters, letter numbers and what is used like them. -/
def alphabetic : CharSet :=
  .unions [cased, of ["lm", "lo", "nl"], .ranges otherAlphabetic]

/-- Characters inside a word that do not separate a letter from the next one. -/
def caseIgnorable : CharSet :=
  .unions [of ["mn", "me", "cf", "lm", "sk"],
    .ranges [(0x27, 0x27), (0x2E, 0x2E), (0x3A, 0x3A), (0xB7, 0xB7), (0x387, 0x387),
      (0x55F, 0x55F), (0x5F4, 0x5F4), (0x2018, 0x2019), (0x2024, 0x2024), (0x2027, 0x2027),
      (0xFE13, 0xFE13), (0xFE52, 0xFE52), (0xFE55, 0xFE55), (0xFF07, 0xFF07), (0xFF0E, 0xFF0E),
      (0xFF1A, 0xFF1A)]]

def changesWhenLowercased : CharSet := .ofRuns loweredRuns

def changesWhenUppercased : CharSet := .ofRuns upperedRuns

def changesWhenTitlecased : CharSet :=
  .union (.diff changesWhenUppercased (.ranges upperedOnly)) (.ranges titledOnly)

def changesWhenCasefolded : CharSet :=
  .union (.diff changesWhenLowercased (.ranges loweredOnly)) (.ranges foldedOnly)

def changesWhenCasemapped : CharSet :=
  .unions [changesWhenLowercased, changesWhenUppercased, changesWhenTitlecased]

/-- Characters that pattern languages keep for themselves. -/
def patternOnly : CharSet := .ranges (patternSyntax ++ patternWhiteSpace)

def idStart : CharSet :=
  .diff (.unions [Category.letters, of ["nl"], .ranges otherIdStart]) patternOnly

def idContinue : CharSet :=
  .diff (.unions [idStart, of ["mn", "mc", "nd", "pc"], .ranges otherIdContinue]) patternOnly

def defaultIgnorable : CharSet :=
  .diff (.unions [.ranges otherDefaultIgnorable, of ["cf"], .ranges variationSelector])
    (.unions [whiteSpace, .ranges [(0xFFF9, 0xFFFB), (0x13430, 0x1343F)],
      .ranges prependedConcatenationMark])

def graphemeExtend : CharSet := .union (of ["mn", "me"]) (.ranges otherGraphemeExtend)

def graphemeBase : CharSet :=
  .diff Category.assigned
    (.unions [of ["cc", "cf", "co", "zl", "zp"], .ranges [(0xD800, 0xDFFF)], graphemeExtend])

def math : CharSet := .union (of ["sm"]) (.ranges otherMath)

/-- Letters, marks, decimal digits, connectors and characters that join: the characters of words. -/
def word : CharSet :=
  .unions [alphabetic, Category.marks, of ["nd", "pc"], .ranges joinControl]

/-- The properties with their loose names. -/
def properties : List (List String × CharSet) :=
  [(["asciihexdigit", "ahex"], .ranges [(0x30, 0x39), (0x41, 0x46), (0x61, 0x66)]),
   (["alphabetic", "alpha"], alphabetic),
   (["bidicontrol", "bidic"], .ranges bidiControl),
   (["caseignorable", "ci"], caseIgnorable),
   (["cased"], cased),
   (["changeswhencasefolded", "cwcf"], changesWhenCasefolded),
   (["changeswhencasemapped", "cwcm"], changesWhenCasemapped),
   (["changeswhenlowercased", "cwl"], changesWhenLowercased),
   (["changeswhentitlecased", "cwt"], changesWhenTitlecased),
   (["changeswhenuppercased", "cwu"], changesWhenUppercased),
   (["dash"], .ranges dash),
   (["defaultignorablecodepoint", "di"], defaultIgnorable),
   (["deprecated", "dep"], .ranges deprecated),
   (["diacritic", "dia"], .ranges diacritic),
   (["emoji"], .ranges emoji),
   (["emojicomponent", "ecomp"], .ranges emojiComponent),
   (["emojimodifier", "emod"], .ranges emojiModifier),
   (["emojimodifierbase", "ebase"], .ranges emojiModifierBase),
   (["emojipresentation", "epres"], .ranges emojiPresentation),
   (["extendedpictographic", "extpict"], .ranges extendedPictographic),
   (["extender", "ext"], .ranges extender),
   (["graphemebase", "grbase"], graphemeBase),
   (["graphemeextend", "grext"], graphemeExtend),
   (["graphemelink", "grlink"], .ranges virama),
   (["hexdigit", "hex"], .ranges hexDigit),
   (["hyphen"], .ranges hyphen),
   (["idcompatmathcontinue"], .ranges idCompatMathContinue),
   (["idcompatmathstart"], .ranges idCompatMathStart),
   (["idcontinue", "idc"], idContinue),
   (["idstart", "ids"], idStart),
   (["ideographic", "ideo"], .ranges ideographic),
   (["idsbinaryoperator", "idsb"], .ranges idsBinaryOperator),
   (["idstrinaryoperator", "idst"], .ranges idsTrinaryOperator),
   (["idsunaryoperator", "idsu"], .ranges idsUnaryOperator),
   (["joincontrol", "joinc"], .ranges joinControl),
   (["logicalorderexception", "loe"], .ranges logicalOrderException),
   (["lowercase", "lower"], lowercase),
   (["math"], math),
   (["modifiercombiningmark", "mcm"], .ranges modifierCombiningMark),
   (["noncharactercodepoint", "nchar"], .ranges noncharacter),
   (["otheralphabetic", "oalpha"], .ranges otherAlphabetic),
   (["otherdefaultignorablecodepoint", "odi"], .ranges otherDefaultIgnorable),
   (["othergraphemeextend", "ogrext"], .ranges otherGraphemeExtend),
   (["otheridcontinue", "oidc"], .ranges otherIdContinue),
   (["otheridstart", "oids"], .ranges otherIdStart),
   (["otherlowercase", "olower"], .ranges otherLowercase),
   (["othermath", "omath"], .ranges otherMath),
   (["otheruppercase", "oupper"], .ranges otherUppercase),
   (["patternsyntax", "patsyn"], .ranges patternSyntax),
   (["patternwhitespace", "patws"], .ranges patternWhiteSpace),
   (["prependedconcatenationmark", "pcm"], .ranges prependedConcatenationMark),
   (["quotationmark", "qmark"], .ranges quotationMark),
   (["radical"], .ranges radical),
   (["regionalindicator", "ri"], .ranges regionalIndicator),
   (["sentenceterminal", "sterm"], .ranges sentenceTerminal),
   (["softdotted", "sd"], .ranges softDotted),
   (["terminalpunctuation", "term"], .ranges terminalPunctuation),
   (["unifiedideograph", "uideo"], .ranges unifiedIdeograph),
   (["uppercase", "upper"], uppercase),
   (["variationselector", "vs"], .ranges variationSelector),
   (["whitespace", "wspace", "space"], whiteSpace),
   (["xidcontinue", "xidc"], .diff idContinue (.ranges unstableContinue)),
   (["xidstart", "xids"], .diff idStart (.ranges unstableStart))]

/-- The characters that have the property with a loose name. -/
def ofName? (name : String) : Option CharSet :=
  (properties.find? fun (names, _) => names.contains name).map (·.2)

end RecordQuery.Text.Property

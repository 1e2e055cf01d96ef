import RecordQuery.Text.Property
import RecordQuery.Text.Script

/-! # Where text may be broken

The classes of characters that decide where a grapheme cluster, a word and a sentence end. They
follow from other properties in the way that the Unicode standard derives them. -/

namespace RecordQuery.Text.Break

/-- The code points of a script. -/
def script (name : String) : CharSet :=
  ((Script.ofName? name).map (·.chars)).getD .empty

/-- Marks that are written before the characters they enclose. -/
def prepended : CharSet := .ranges Property.prependedConcatenationMark

def joiner : CharSet := .single 0x200D

/-- Extends a grapheme cluster. -/
def graphemeExtend : CharSet :=
  .diff (.union Property.graphemeExtend (.ranges Property.emojiModifier)) joiner

def graphemeControl : CharSet :=
  .diff
    (.union (Category.members ["zl", "zp", "cc", "cf"])
      (.diff Property.defaultIgnorable Category.assigned))
    (.unions [.ranges [(0x0A, 0x0A), (0x0D, 0x0D), (0x200C, 0x200D)], prepended, graphemeExtend])

def graphemePrepend : CharSet :=
  .union prepended
    (.ranges [(0xD4E, 0xD4E), (0x111C2, 0x111C3), (0x113D1, 0x113D1), (0x1193F, 0x1193F),
      (0x11941, 0x11941), (0x11A3A, 0x11A3A), (0x11A84, 0x11A89), (0x11D46, 0x11D46),
      (0x11F02, 0x11F02)])

def graphemeSpacingMark : CharSet :=
  .diff (.union (Category.members ["mc"]) (.ranges [(0xE33, 0xE33), (0xEB3, 0xEB3)]))
    (.unions [graphemeExtend,
      .ranges [(0x102B, 0x102C), (0x1038, 0x1038), (0x1062, 0x1064), (0x1067, 0x106D),
        (0x1083, 0x1083), (0x1087, 0x108C), (0x108F, 0x108F), (0x109A, 0x109C), (0x1A61, 0x1A61),
        (0x1A63, 0x1A64), (0xAA7B, 0xAA7B), (0xAA7D, 0xAA7D), (0x11720, 0x11721)]])

/-- Hangul syllables without a final consonant: every 28th of them. -/
def hangulOpen : CharSet := .ofRuns [(0xAC00, 0xD788, 28)]

def hangulSyllables : CharSet := .ranges [(0xAC00, 0xD7A3)]

/-- The classes for grapheme clusters with their loose names. -/
def graphemeClasses : List (List String × CharSet) :=
  [(["control", "cn"], graphemeControl),
   (["cr"], .single 0x0D),
   (["extend", "ex"], graphemeExtend),
   (["l"], .ranges [(0x1100, 0x115F), (0xA960, 0xA97C)]),
   (["lf"], .single 0x0A),
   (["lv"], hangulOpen),
   (["lvt"], .diff hangulSyllables hangulOpen),
   (["prepend", "pp"], graphemePrepend),
   (["regionalindicator", "ri"], .ranges Property.regionalIndicator),
   (["spacingmark", "sm"], graphemeSpacingMark),
   (["t"], .ranges [(0x11A8, 0x11FF), (0xD7CB, 0xD7FB)]),
   (["v"], .ranges [(0x1160, 0x11A7), (0xD7B0, 0xD7C6), (0x16D63, 0x16D63), (0x16D67, 0x16D6A)]),
   (["zwj"], joiner)]

/-- Belongs to the character before. -/
def wordExtend : CharSet :=
  .diff (.unions [Property.graphemeExtend, Category.members ["mc"], .ranges Property.emojiModifier])
    joiner

/-- Digits and marks that are written before digits. -/
def wordNumeric : CharSet :=
  .unions [Category.members ["nd"], .single 0x66B, .diff prepended (.single 0x70F)]

def wordKatakana : CharSet :=
  .union (script "katakana")
    (.ranges [(0x3031, 0x3035), (0x309B, 0x309C), (0x30A0, 0x30A0), (0x30FC, 0x30FC),
      (0xFF70, 0xFF70)])

def wordHebrew : CharSet := .inter (script "hebrew") (Category.members ["lo"])

/-- Letters of scripts that put no blanks between words. -/
def unseparated : CharSet :=
  .ranges [(0xE01, 0xE3A), (0xE40, 0xE4E), (0xE81, 0xE82), (0xE84, 0xE84), (0xE86, 0xE8A),
    (0xE8C, 0xEA3), (0xEA5, 0xEA5), (0xEA7, 0xEBD), (0xEC0, 0xEC4), (0xEC6, 0xEC6), (0xEC8, 0xECE),
    (0xEDC, 0xEDF), (0x1000, 0x103F), (0x1050, 0x108F), (0x109A, 0x109F), (0x1780, 0x17D3),
    (0x17D7, 0x17D7), (0x17DC, 0x17DD), (0x1950, 0x196D), (0x1970, 0x1974), (0x1980, 0x19AB),
    (0x19B0, 0x19C9), (0x19DA, 0x19DA), (0x19DE, 0x19DF), (0x1A20, 0x1A5E), (0x1A60, 0x1A7C),
    (0x1AA0, 0x1AAD), (0xA9E0, 0xA9EF), (0xA9FA, 0xA9FE), (0xAA60, 0xAAC2), (0xAADB, 0xAADF),
    (0x11700, 0x1171A), (0x1171D, 0x1172B), (0x1173A, 0x1173B), (0x1173F, 0x11746)]

def wordLetter : CharSet :=
  .diff
    (.union Property.alphabetic
      (.ranges [(0x2C2, 0x2C5), (0x2D2, 0x2D7), (0x2DE, 0x2DF), (0x2E5, 0x2EB), (0x2ED, 0x2ED),
        (0x2EF, 0x2FF), (0x55A, 0x55C), (0x55E, 0x55E), (0x58A, 0x58A), (0x5F3, 0x5F3),
        (0x70F, 0x70F), (0xA708, 0xA716), (0xA720, 0xA721), (0xA789, 0xA78A), (0xAB5B, 0xAB5B)]))
    (.unions [.ranges Property.ideographic, wordKatakana, unseparated, script "hiragana",
      wordExtend, wordHebrew, wordNumeric])

/-- Characters that direct how text is shown. -/
def format : CharSet :=
  .diff (Category.members ["cf"])
    (.unions [.ranges [(0x200C, 0x200D)], prepended, Property.graphemeExtend])

/-- The classes for words with their loose names. -/
def wordClasses : List (List String × CharSet) :=
  [(["aletter", "le"], wordLetter),
   (["cr"], .single 0x0D),
   (["doublequote", "dq"], .single 0x22),
   (["extend"], wordExtend),
   (["extendnumlet", "ex"], .union (Category.members ["pc"]) (.single 0x202F)),
   (["format", "fo"], .diff format (.single 0x200B)),
   (["hebrewletter", "hl"], wordHebrew),
   (["katakana", "ka"], wordKatakana),
   (["lf"], .single 0x0A),
   (["midletter", "ml"],
    .ranges [(0x3A, 0x3A), (0xB7, 0xB7), (0x387, 0x387), (0x55F, 0x55F), (0x5F4, 0x5F4),
      (0x2027, 0x2027), (0xFE13, 0xFE13), (0xFE55, 0xFE55), (0xFF1A, 0xFF1A)]),
   (["midnum", "mn"],
    .ranges [(0x2C, 0x2C), (0x3B, 0x3B), (0x37E, 0x37E), (0x589, 0x589), (0x60C, 0x60D),
      (0x66C, 0x66C), (0x7F8, 0x7F8), (0x2044, 0x2044), (0xFE10, 0xFE10), (0xFE14, 0xFE14),
      (0xFE50, 0xFE50), (0xFE54, 0xFE54), (0xFF0C, 0xFF0C), (0xFF1B, 0xFF1B)]),
   (["midnumlet", "mb"],
    .ranges [(0x2E, 0x2E), (0x2018, 0x2019), (0x2024, 0x2024), (0xFE52, 0xFE52), (0xFF07, 0xFF07),
      (0xFF0E, 0xFF0E)]),
   (["newline", "nl"], .ranges [(0x0B, 0x0C), (0x85, 0x85), (0x2028, 0x2029)]),
   (["numeric", "nu"], wordNumeric),
   (["regionalindicator", "ri"], .ranges Property.regionalIndicator),
   (["singlequote", "sq"], .single 0x27),
   (["wsegspace"],
    .diff (Category.members ["zs"]) (.ranges [(0xA0, 0xA0), (0x2007, 0x2007), (0x202F, 0x202F)])),
   (["zwj"], joiner)]

def sentenceExtend : CharSet :=
  .unions [Property.graphemeExtend, Category.members ["mc"], joiner]

/-- Lower case letters outside the Georgian script, whose letters do not begin sentences. -/
def sentenceLower : CharSet :=
  .diff Property.lowercase
    (.union Property.graphemeExtend (.ranges [(0x10D0, 0x10FB), (0x10FD, 0x10FF)]))

def sentenceUpper : CharSet :=
  .diff (.union (Category.members ["lt"]) Property.uppercase) (.ranges [(0x1C90, 0x1CBF)])

/-- Full stops. -/
def sentenceStop : CharSet :=
  .ranges [(0x2E, 0x2E), (0x2024, 0x2024), (0xFE52, 0xFE52), (0xFF0E, 0xFF0E)]

def sentenceTerminal : CharSet := .diff (.ranges Property.sentenceTerminal) sentenceStop

/-- The ends of lines and paragraphs. -/
def sentenceSeparator : CharSet := .ranges [(0x85, 0x85), (0x2028, 0x2029)]

/-- The classes for sentences with their loose names. -/
def sentenceClasses : List (List String × CharSet) :=
  [(["aterm", "at"], sentenceStop),
   (["close", "cl"],
    .diff
      (.union (Category.members ["ps", "pe", "pi", "pf"])
        (.ranges [(0x22, 0x22), (0x27, 0x27), (0x275B, 0x2760), (0x2E00, 0x2E01), (0x2E06, 0x2E08),
          (0x2E0B, 0x2E0B), (0x1F676, 0x1F678)]))
      (.union sentenceStop sentenceTerminal)),
   (["cr"], .single 0x0D),
   (["extend", "ex"], sentenceExtend),
   (["format", "fo"], format),
   (["lf"], .single 0x0A),
   (["lower", "lo"], sentenceLower),
   (["numeric", "nu"], .union wordNumeric (.single 0x66C)),
   (["oletter", "le"],
    .diff (.union Property.alphabetic (.single 0x5F3))
      (.unions [sentenceLower, sentenceUpper, sentenceExtend])),
   (["scontinue", "sc"],
    .ranges [(0x2C, 0x2D), (0x3A, 0x3B), (0x37E, 0x37E), (0x55D, 0x55D), (0x60C, 0x60D),
      (0x7F8, 0x7F8), (0x1802, 0x1802), (0x1808, 0x1808), (0x2013, 0x2014), (0x3001, 0x3001),
      (0xFE10, 0xFE11), (0xFE13, 0xFE14), (0xFE31, 0xFE32), (0xFE50, 0xFE51), (0xFE54, 0xFE55),
      (0xFE58, 0xFE58), (0xFE63, 0xFE63), (0xFF0C, 0xFF0D), (0xFF1A, 0xFF1B), (0xFF64, 0xFF64)]),
   (["sep", "se"], sentenceSeparator),
   (["sp"],
    .diff Property.whiteSpace (.union sentenceSeparator (.ranges [(0x0A, 0x0A), (0x0D, 0x0D)]))),
   (["sterm", "st"], sentenceTerminal),
   (["upper", "up"], sentenceUpper)]

/-- The characters of the class with a loose name. -/
def ofName? (classes : List (List String × CharSet)) (name : String) : Option CharSet :=
  (classes.find? fun (names, _) => names.contains name).map (·.2)

end RecordQuery.Text.Break

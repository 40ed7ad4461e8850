import DocMapper.Unicode.BooleanProperty
import DocMapper.Unicode.Script

namespace DocMapper

/-! # Segmentation classes

The classes of code points by which text is cut into characters as readers see them, into words
and into sentences, after the rules of the Unicode text segmentation annex, version 16. Code points
outside these classes have no class of their own.
-/

namespace GraphemeBreak

open GeneralCategory BooleanProperty

/-- Characters that continue the one before. -/
def extend : CodeSet := graphemeExtend.union emojiModifier

/-- Characters that stand for themselves and stop a character before them. -/
def control : CodeSet :=
  (CodeSet.unions [lineSeparator, paragraphSeparator, GeneralCategory.control, format,
    unassigned.inter defaultIgnorable]).diff
    (.unions [.ofText "A D 200C-200D", prependedConcatenationMark, extend])

/-- Characters that belong to the one after. -/
def prepend : CodeSet :=
  prependedConcatenationMark.union
    (.ofText "D4E 111C2-111C3 113D1 1193F 11941 11A3A 11A84-11A89 11D46 11F02")

/-- Marks with room of their own that continue the character before. -/
def spacing : CodeSet :=
  (spacingMark.union (.ofText "E33 EB3")).diff (extend.union
    (.ofText "102B-102C 1038 1062-1064 1067-106D 1083 1087-108C 108F 109A-109C 1A61 1A63-1A64
      AA7B AA7D 11720-11721"))

/-- Leading consonants of syllable blocks. -/
def leading : CodeSet := .ofText "1100-115F A960-A97C"

/-- Vowels of syllable blocks. -/
def vowel : CodeSet := .ofText "1160-11A7 D7B0-D7C6 16D63 16D67-16D6A"

/-- Trailing consonants of syllable blocks. -/
def trailing : CodeSet := .ofText "11A8-11FF D7CB-D7FB"

/-- Every syllable of an alphabet of `19` leading consonants, `21` vowels and `27` trailing
consonants, or none. -/
def syllable : CodeSet := .range 0xAC00 0xD7A3

/-- Syllables without a trailing consonant: every twenty-eighth one. -/
def openSyllable : CodeSet :=
  ⟨(List.range (19 * 21)).map fun n => ⟨0xAC00 + 28 * n, 0xAC00 + 28 * n⟩⟩

/-- The classes by their names, without blanks, hyphens and capitals. -/
def named : List (List String × CodeSet) := [
  (["control", "cn"], control),
  (["cr"], .range 0xD 0xD),
  (["extend", "ex"], extend),
  (["l"], leading),
  (["lf"], .range 0xA 0xA),
  (["lv"], openSyllable),
  (["lvt"], syllable.diff openSyllable),
  (["prepend", "pp"], prepend),
  (["regionalindicator", "ri"], regionalIndicator),
  (["spacingmark", "sm"], spacing),
  (["t"], trailing),
  (["v"], vowel),
  (["zwj"], .range 0x200D 0x200D)
]

end GraphemeBreak

namespace WordBreak

open GeneralCategory BooleanProperty

/-- Characters that continue the one before. -/
def extend : CodeSet :=
  (CodeSet.unions [graphemeExtend, spacingMark, emojiModifier]).diff (.range 0x200D 0x200D)

/-- Digits and the signs before them. -/
def numeric : CodeSet :=
  (CodeSet.unions [decimalNumber, prependedConcatenationMark, .range 0x66B 0x66B]).diff
    (.range 0x70F 0x70F)

/-- Characters that guide the layout. -/
def layout : CodeSet :=
  (CodeSet.diff format (.ofText "200B-200D 70F")).diff (numeric.union graphemeExtend)

/-- Katakana letters, and marks used with them. -/
def katakana : CodeSet :=
  (Script.codes "katakana").union (.ofText "3031-3035 309B-309C 30A0 30FC FF70")

/-- Hebrew letters, which may have marks like quotation marks inside words. -/
def hebrewLetter : CodeSet := (Script.codes "hebrew").inter otherLetter

/-- Scripts that are written without blanks between words. -/
def unspaced : CodeSet :=
  Script.codesOf ["ahom", "hiragana", "khmer", "lao", "myanmar", "newtailue", "taile", "taitham",
    "taiviet", "thai"]

/-- Letters of words. -/
def letter : CodeSet :=
  (alphabetic.union (.ofText "2C2-2C5 2D2-2D7 2DE-2DF 2E5-2EB 2ED 2EF-2FF 55A-55C 55E 58A 5F3 70F
    A708-A716 A720-A721 A789-A78A AB5B")).diff
    (.unions [ideographic, katakana, hebrewLetter, unspaced, extend])

/-- The classes by their names, without blanks, hyphens and capitals. -/
def named : List (List String × CodeSet) := [
  (["aletter", "le"], letter),
  (["cr"], .range 0xD 0xD),
  (["doublequote", "dq"], .range 0x22 0x22),
  (["extend"], extend),
  (["extendnumlet", "ex"], connectorPunctuation.union (.range 0x202F 0x202F)),
  (["format", "fo"], layout),
  (["hebrewletter", "hl"], hebrewLetter),
  (["katakana", "ka"], katakana),
  (["lf"], .range 0xA 0xA),
  (["midletter", "ml"], .ofText "3A B7 387 55F 5F4 2027 FE13 FE55 FF1A"),
  (["midnum", "mn"], .ofText "2C 3B 37E 589 60C-60D 66C 7F8 2044 FE10 FE14 FE50 FE54 FF0C FF1B"),
  (["midnumlet", "mb"], .ofText "2E 2018-2019 2024 FE52 FF07 FF0E"),
  (["newline", "nl"], .ofText "B-C 85 2028-2029"),
  (["numeric", "nu"], numeric),
  (["regionalindicator", "ri"], regionalIndicator),
  (["singlequote", "sq"], .range 0x27 0x27),
  (["wsegspace"], .ofText "20 1680 2000-2006 2008-200A 205F 3000"),
  (["zwj"], .range 0x200D 0x200D)
]

end WordBreak

namespace SentenceBreak

open GeneralCategory BooleanProperty

/-- Characters that continue the one before. -/
def extend : CodeSet := .unions [graphemeExtend, spacingMark, joinControl]

/-- Digits and the signs before them. -/
def numeric : CodeSet := WordBreak.numeric.union (.range 0x66C 0x66C)

/-- Characters that guide the layout. -/
def layout : CodeSet :=
  (CodeSet.diff format (.ofText "200C-200D 70F")).diff (numeric.union graphemeExtend)

/-- Letters whose case says nothing about the start of a sentence. -/
def caseless : CodeSet := .ofText "10D0-10FA 10FD-10FF 1C90-1CBA 1CBD-1CBF"

/-- Small letters. -/
def lower : CodeSet := lowercase.diff (graphemeExtend.union caseless)

/-- Capital letters. -/
def upper : CodeSet := (uppercase.union titlecaseLetter).diff caseless

/-- Other letters. -/
def letter : CodeSet :=
  (alphabetic.union (.ofText "5F3 70F")).diff (.unions [lower, upper, extend])

/-- Full stops, which may also end an abbreviation. -/
def fullStop : CodeSet := .ofText "2E 2024 FE52 FF0E"

/-- Brackets and quotation marks. -/
def close : CodeSet :=
  .unions [openPunctuation, closePunctuation, initialPunctuation, finalPunctuation,
    .ofText "22 27 275B-2760 2E00-2E01 2E06-2E08 2E0B 1F676-1F678"]

/-- The classes by their names, without blanks, hyphens and capitals. -/
def named : List (List String × CodeSet) := [
  (["aterm", "at"], fullStop),
  (["close", "cl"], close),
  (["cr"], .range 0xD 0xD),
  (["extend", "ex"], extend),
  (["format", "fo"], layout),
  (["lf"], .range 0xA 0xA),
  (["lower", "lo"], lower),
  (["numeric", "nu"], numeric),
  (["oletter", "le"], letter),
  (["scontinue", "sc"], .ofText "2C-2D 3A-3B 37E 55D 60C-60D 7F8 1802 1808 2013-2014 3001 FE10-FE11
    FE13-FE14 FE31-FE32 FE50-FE51 FE54-FE55 FE58 FE63 FF0C-FF0D FF1A-FF1B FF64"),
  (["sep", "se"], .ofText "85 2028-2029"),
  (["sp"], whiteSpace.diff (.ofText "A D 85 2028-2029")),
  (["sterm", "st"], sentenceTerminal.diff fullStop),
  (["upper", "up"], upper)
]

end SentenceBreak

end DocMapper

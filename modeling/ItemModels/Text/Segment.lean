import ItemModels.Text.Property.Case
import ItemModels.Text.Property.Emoji
import ItemModels.Text.Property.Sign
import ItemModels.Text.Script

namespace ItemModels
namespace Text
namespace Segment

/-!
The classes of characters by which a text is cut into graphemes, words and sentences.

The classes of one kind do not overlap, and they are built from the other properties by
the rules of the standard for text segmentation.  Characters of no class have no name.
-/

open Category Property

def carriageReturn : CharSet := .range 0xD 0xD

def lineFeed : CharSet := .range 0xA 0xA

def joiner : CharSet := .range 0x200D 0x200D

/-! ## Graphemes -/

/-- What extends a grapheme, tones of skin among it. -/
def graphemeExtender : CharSet := .union graphemeExtend emojiModifier

def graphemeControl : CharSet :=
  .without
    (.unionAll [.ofRuns lineSeparator, .ofRuns paragraphSeparator, .ofRuns control,
      .ofRuns formatting, .meet unassigned defaultIgnorable])
    (.unionAll [carriageReturn, lineFeed, joiner, .ofRuns prependedMark, graphemeExtender])

/-- Letters that are part of the grapheme of the letter after them. -/
def prepended : CharSet :=
  .union (.ofRuns prependedMark)
    (.ofRuns [⟨0xD4E, 0xD4E, 1⟩, ⟨0x111C2, 0x111C3, 1⟩, ⟨0x113D1, 0x113D1, 1⟩,
      ⟨0x1193F, 0x11941, 2⟩, ⟨0x11A3A, 0x11A3A, 1⟩, ⟨0x11A84, 0x11A89, 1⟩, ⟨0x11D46, 0x11D46, 1⟩,
      ⟨0x11F02, 0x11F02, 1⟩])

/-- Spacing marks that start a grapheme nevertheless. -/
def apartMark : List Run :=
  [⟨0x102B, 0x102C, 1⟩, ⟨0x1038, 0x1038, 1⟩, ⟨0x1062, 0x1064, 1⟩, ⟨0x1067, 0x106D, 1⟩,
   ⟨0x1083, 0x1083, 1⟩, ⟨0x1087, 0x108C, 1⟩, ⟨0x108F, 0x108F, 1⟩, ⟨0x109A, 0x109C, 1⟩,
   ⟨0x1A61, 0x1A63, 2⟩, ⟨0x1A64, 0x1A64, 1⟩, ⟨0xAA7B, 0xAA7D, 2⟩, ⟨0x11720, 0x11721, 1⟩]

def spacing : CharSet :=
  .without (.union (.ofRuns spacingMark) (.ofCodes [0xE33, 0xEB3]))
    (.union (.ofRuns apartMark) graphemeExtender)

def leadingJamo : CharSet := .ofRuns [⟨0x1100, 0x115F, 1⟩, ⟨0xA960, 0xA97C, 1⟩]

/-- Vowels, with those of a script whose vowels join in the same way. -/
def vowelJamo : CharSet :=
  .ofRuns [⟨0x1160, 0x11A7, 1⟩, ⟨0xD7B0, 0xD7C6, 1⟩, ⟨0x16D63, 0x16D63, 1⟩, ⟨0x16D67, 0x16D6A, 1⟩]

def trailingJamo : CharSet := .ofRuns [⟨0x11A8, 0x11FF, 1⟩, ⟨0xD7CB, 0xD7FB, 1⟩]

/-- Syllables without a trailing consonant: every twenty eighth one. -/
def openSyllable : CharSet := .ofRuns [⟨0xAC00, 0xD788, 28⟩]

def closedSyllable : CharSet := .without (.range 0xAC00 0xD7A3) openSyllable

def grapheme : List (List String × CharSet) :=
  [(["cr"], carriageReturn), (["lf"], lineFeed), (["cn", "control"], graphemeControl),
   (["ex", "extend"], graphemeExtender), (["zwj"], joiner), (["pp", "prepend"], prepended),
   (["ri", "regionalindicator"], regionalIndicator), (["sm", "spacingmark"], spacing),
   (["l"], leadingJamo), (["v"], vowelJamo), (["t"], trailingJamo), (["lv"], openSyllable),
   (["lvt"], closedSyllable)]

def grapheme? (name : String) : Option CharSet := CharSet.called? grapheme name

/-! ## Words -/

/-- What continues the character before it, in words and in sentences. -/
def continuing : CharSet := .union graphemeExtend (.ofRuns spacingMark)

/-- Digits and the signs that stand among them. -/
def numeric : CharSet :=
  .union (.ofRuns decimalNumber)
    (.ofRuns [⟨0x600, 0x605, 1⟩, ⟨0x66B, 0x66B, 1⟩, ⟨0x6DD, 0x6DD, 1⟩, ⟨0x890, 0x891, 1⟩,
      ⟨0x8E2, 0x8E2, 1⟩, ⟨0x110BD, 0x110CD, 16⟩])

def wordFormat : CharSet :=
  .without (.ofRuns formatting)
    (.unionAll [joiner, .range 0x200B 0x200B, .ofRuns prependedMark, graphemeExtend])

def katakana : CharSet :=
  .union ((Script.named? "kana").getD .empty)
    (.ofRuns [⟨0x3031, 0x3035, 1⟩, ⟨0x309B, 0x309C, 1⟩, ⟨0x30A0, 0x30A0, 1⟩, ⟨0x30FC, 0x30FC, 1⟩,
      ⟨0xFF70, 0xFF70, 1⟩])

def hebrewLetter : CharSet :=
  .meet ((Script.named? "hebr").getD .empty) (.ofRuns otherLetter)

/-- Signs that count as letters in a word. -/
def letterSign : List Run :=
  [⟨0x2C2, 0x2C5, 1⟩, ⟨0x2D2, 0x2D7, 1⟩, ⟨0x2DE, 0x2DF, 1⟩, ⟨0x2E5, 0x2EB, 1⟩, ⟨0x2ED, 0x2ED, 1⟩,
   ⟨0x2EF, 0x2FF, 1⟩, ⟨0x55A, 0x55C, 1⟩, ⟨0x55E, 0x55E, 1⟩, ⟨0x58A, 0x58A, 1⟩, ⟨0x5F3, 0x5F3, 1⟩,
   ⟨0x70F, 0x70F, 1⟩, ⟨0xA708, 0xA716, 1⟩, ⟨0xA720, 0xA721, 1⟩, ⟨0xA789, 0xA78A, 1⟩,
   ⟨0xAB5B, 0xAB5B, 1⟩]

/-- Scripts that are written without spaces, in which words are found by a dictionary. -/
def unspaced : List Run :=
  [⟨0xE01, 0xE3A, 1⟩, ⟨0xE40, 0xE4E, 1⟩, ⟨0xE81, 0xECE, 1⟩, ⟨0xEDC, 0xEDF, 1⟩, ⟨0x1000, 0x103F, 1⟩,
   ⟨0x1050, 0x108F, 1⟩, ⟨0x109A, 0x109F, 1⟩, ⟨0x1780, 0x17D3, 1⟩, ⟨0x17D7, 0x17D7, 1⟩,
   ⟨0x17DC, 0x17DD, 1⟩, ⟨0x1950, 0x19C9, 1⟩, ⟨0x19DA, 0x19DA, 1⟩, ⟨0x19DE, 0x19DF, 1⟩,
   ⟨0x1A20, 0x1A7C, 1⟩, ⟨0x1AA0, 0x1AAD, 1⟩, ⟨0xA9E0, 0xA9EF, 1⟩, ⟨0xA9FA, 0xA9FE, 1⟩,
   ⟨0xAA60, 0xAAC2, 1⟩, ⟨0xAADB, 0xAADF, 1⟩, ⟨0x11700, 0x1172B, 1⟩, ⟨0x1173A, 0x1173B, 1⟩,
   ⟨0x1173F, 0x11746, 1⟩]

def wordLetter : CharSet :=
  .without (.union CharClass.alphabetic (.ofRuns letterSign))
    (.unionAll [ideographic, katakana, (Script.named? "hira").getD .empty, .ofRuns unspaced,
      continuing, hebrewLetter])

/-- Signs that may stand between letters. -/
def midLetter : CharSet :=
  .ofCodes [0x3A, 0xB7, 0x387, 0x55F, 0x5F4, 0x2027, 0xFE13, 0xFE55, 0xFF1A]

/-- Signs that may stand between digits. -/
def midNumber : CharSet :=
  .ofCodes
    [0x2C, 0x3B, 0x37E, 0x589, 0x60C, 0x60D, 0x66C, 0x7F8, 0x2044, 0xFE10, 0xFE14, 0xFE50, 0xFE54,
     0xFF0C, 0xFF1B]

/-- Signs that may stand between both. -/
def midBoth : CharSet := .ofCodes [0x2E, 0x2018, 0x2019, 0x2024, 0xFE52, 0xFF07, 0xFF0E]

def wordSpace : CharSet :=
  .without (.ofRuns spaceSeparator) (.ofCodes [0xA0, 0x2007, 0x202F])

def word : List (List String × CharSet) :=
  [(["cr"], carriageReturn), (["lf"], lineFeed),
   (["nl", "newline"], .ofCodes [0xB, 0xC, 0x85, 0x2028, 0x2029]),
   (["extend"], .union continuing emojiModifier), (["zwj"], joiner),
   (["ri", "regionalindicator"], regionalIndicator), (["fo", "format"], wordFormat),
   (["ka", "katakana"], katakana), (["hl", "hebrewletter"], hebrewLetter),
   (["le", "aletter"], wordLetter), (["sq", "singlequote"], .range 0x27 0x27),
   (["dq", "doublequote"], .range 0x22 0x22), (["mb", "midnumlet"], midBoth),
   (["ml", "midletter"], midLetter), (["mn", "midnum"], midNumber), (["nu", "numeric"], numeric),
   (["ex", "extendnumlet"], .union (.ofRuns connectorPunctuation) (.range 0x202F 0x202F)),
   (["wsegspace"], wordSpace)]

def word? (name : String) : Option CharSet := CharSet.called? word name

/-! ## Sentences -/

def sentenceExtender : CharSet := .union continuing joiner

def sentenceNumeric : CharSet := .union numeric (.range 0x66C 0x66C)

def sentenceFormat : CharSet :=
  .without (.ofRuns formatting) (.unionAll [joiner, .ofRuns prependedMark, graphemeExtend])

/-- Line and paragraph separators besides the line feed and the carriage return. -/
def sentenceSeparator : CharSet := .ofCodes [0x85, 0x2028, 0x2029]

def sentenceSpace : CharSet :=
  .without CharClass.space (.unionAll [sentenceSeparator, carriageReturn, lineFeed])

/-- Small letters, without those of the Georgian script, whose capitals start no sentence. -/
def sentenceLower : CharSet :=
  .without lowercase
    (.union graphemeExtend (.ofRuns [⟨0x10D0, 0x10FA, 1⟩, ⟨0x10FD, 0x10FF, 1⟩]))

def sentenceUpper : CharSet :=
  .without (.union uppercase (.ofRuns titlecaseLetter))
    (.ofRuns [⟨0x1C90, 0x1CBA, 1⟩, ⟨0x1CBD, 0x1CBF, 1⟩])

def sentenceLetter : CharSet :=
  .without (.union CharClass.alphabetic (.ofCodes [0x5F3, 0x70F]))
    (.unionAll [sentenceLower, sentenceUpper, sentenceExtender])

/-- Full stops, which may also belong to an abbreviation or a number. -/
def fullStop : CharSet := .ofCodes [0x2E, 0x2024, 0xFE52, 0xFF0E]

def sentenceEnd : CharSet := .without (.ofRuns sentenceTerminal) fullStop

/-- Commas, colons, semicolons and dashes. -/
def sentenceGoesOn : CharSet :=
  .ofCodes
    [0x2C, 0x2D, 0x3A, 0x3B, 0x37E, 0x55D, 0x60C, 0x60D, 0x7F8, 0x1802, 0x1808, 0x2013, 0x2014,
     0x3001, 0xFE10, 0xFE11, 0xFE13, 0xFE14, 0xFE31, 0xFE32, 0xFE50, 0xFE51, 0xFE54, 0xFE55, 0xFE58,
     0xFE63, 0xFF0C, 0xFF0D, 0xFF1A, 0xFF1B, 0xFF64]

/-- Brackets and quotation marks. -/
def sentenceClose : CharSet :=
  .without
    (.unionAll [.ofRuns openPunctuation, .ofRuns closePunctuation, .ofRuns initialPunctuation,
      .ofRuns finalPunctuation,
      .ofRuns [⟨0x22, 0x22, 1⟩, ⟨0x27, 0x27, 1⟩, ⟨0x275B, 0x2760, 1⟩, ⟨0x2E00, 0x2E01, 1⟩,
        ⟨0x2E06, 0x2E08, 1⟩, ⟨0x2E0B, 0x2E0B, 1⟩, ⟨0x1F676, 0x1F678, 1⟩]])
    (.union fullStop sentenceEnd)

def sentence : List (List String × CharSet) :=
  [(["cr"], carriageReturn), (["lf"], lineFeed), (["ex", "extend"], sentenceExtender),
   (["se", "sep"], sentenceSeparator), (["fo", "format"], sentenceFormat),
   (["sp"], sentenceSpace), (["lo", "lower"], sentenceLower), (["up", "upper"], sentenceUpper),
   (["le", "oletter"], sentenceLetter), (["nu", "numeric"], sentenceNumeric),
   (["at", "aterm"], fullStop), (["st", "sterm"], sentenceEnd),
   (["sc", "scontinue"], sentenceGoesOn), (["cl", "close"], sentenceClose)]

def sentence? (name : String) : Option CharSet := CharSet.called? sentence name

end Segment
end Text
end ItemModels

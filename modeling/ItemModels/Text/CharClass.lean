import ItemModels.Text.Category

namespace ItemModels
namespace Text
namespace CharClass

/-!
Character classes that are unions of general categories and a few named
characters: digits, spaces, characters of words, alphabetic characters, and the
characters that a quoted text shows as they are.
-/

/-- Digits of any decimal system. -/
def digit : CharSet := .ofRuns Category.decimalNumber

def asciiDigit : CharSet := .range 0x30 0x39

def space : CharSet :=
  .ofRuns
    [⟨0x9, 0xD, 1⟩, ⟨0x20, 0x20, 1⟩, ⟨0x85, 0x85, 1⟩, ⟨0xA0, 0xA0, 1⟩, ⟨0x1680, 0x1680, 1⟩,
     ⟨0x2000, 0x200A, 1⟩, ⟨0x2028, 0x2029, 1⟩, ⟨0x202F, 0x202F, 1⟩, ⟨0x205F, 0x205F, 1⟩,
     ⟨0x3000, 0x3000, 1⟩]

def asciiSpace : CharSet :=
  .ofRuns [⟨0x9, 0xD, 1⟩, ⟨0x20, 0x20, 1⟩]

/-- Letters in circles and squares, which are symbols and yet alphabetic. -/
def enclosedLetter : CharSet :=
  .ofRuns [⟨0x24B6, 0x24E9, 1⟩, ⟨0x1F130, 0x1F149, 1⟩, ⟨0x1F150, 0x1F169, 1⟩, ⟨0x1F170, 0x1F189, 1⟩]

/-- The two characters that control joining. -/
def joinControl : CharSet := .range 0x200C 0x200D

def alphabetic : CharSet :=
  .unionAll [Category.letters, .ofRuns Category.letterNumber, enclosedLetter,
    .without Category.marks (.ofRuns Category.nonalphabeticMark)]

/-- Alphabetic characters and numerals. -/
def alphanumeric : CharSet :=
  .union alphabetic Category.numerals

/-- Characters of words: alphabetic ones, marks, digits, connectors and the controls of
joining. -/
def word : CharSet :=
  .unionAll [.range 0x30 0x39, .range 0x41 0x5A, .range 0x61 0x7A, alphabetic, Category.marks, digit,
    .ofRuns Category.connectorPunctuation, joinControl]

def asciiWord : CharSet :=
  .ofRuns [⟨0x30, 0x39, 1⟩, ⟨0x41, 0x5A, 1⟩, ⟨0x5F, 0x5F, 1⟩, ⟨0x61, 0x7A, 1⟩]

/-- Characters that extend the one before them although they are not nonspacing or
enclosing marks. -/
def graphemeExtender : List Run :=
  [⟨0x9BE, 0x9BE, 1⟩, ⟨0x9D7, 0x9D7, 1⟩, ⟨0xB3E, 0xB3E, 1⟩, ⟨0xB57, 0xB57, 1⟩, ⟨0xBBE, 0xBBE, 1⟩,
   ⟨0xBD7, 0xBD7, 1⟩, ⟨0xCC0, 0xCC0, 1⟩, ⟨0xCC2, 0xCC2, 1⟩, ⟨0xCC7, 0xCC8, 1⟩, ⟨0xCCA, 0xCCB, 1⟩,
   ⟨0xCD5, 0xCD6, 1⟩, ⟨0xD3E, 0xD3E, 1⟩, ⟨0xD57, 0xD57, 1⟩, ⟨0xDCF, 0xDCF, 1⟩, ⟨0xDDF, 0xDDF, 1⟩,
   ⟨0x1715, 0x1715, 1⟩, ⟨0x1734, 0x1734, 1⟩, ⟨0x1B35, 0x1B35, 1⟩, ⟨0x1B3B, 0x1B3B, 1⟩,
   ⟨0x1B3D, 0x1B3D, 1⟩, ⟨0x1B43, 0x1B44, 1⟩, ⟨0x1BAA, 0x1BAA, 1⟩, ⟨0x1BF2, 0x1BF3, 1⟩,
   ⟨0x200C, 0x200C, 1⟩, ⟨0x302E, 0x302F, 1⟩, ⟨0xA953, 0xA953, 1⟩, ⟨0xA9C0, 0xA9C0, 1⟩,
   ⟨0xFF9E, 0xFF9F, 1⟩, ⟨0x111C0, 0x111C0, 1⟩, ⟨0x11235, 0x11235, 1⟩, ⟨0x1133E, 0x1133E, 1⟩,
   ⟨0x1134D, 0x1134D, 1⟩, ⟨0x11357, 0x11357, 1⟩, ⟨0x113B8, 0x113B8, 1⟩, ⟨0x113C2, 0x113C2, 1⟩,
   ⟨0x113C5, 0x113C5, 1⟩, ⟨0x113C7, 0x113C9, 1⟩, ⟨0x113CF, 0x113CF, 1⟩, ⟨0x114B0, 0x114B0, 1⟩,
   ⟨0x114BD, 0x114BD, 1⟩, ⟨0x115AF, 0x115AF, 1⟩, ⟨0x116B6, 0x116B6, 1⟩, ⟨0x11930, 0x11930, 1⟩,
   ⟨0x1193D, 0x1193D, 1⟩, ⟨0x11F41, 0x11F41, 1⟩, ⟨0x16FF0, 0x16FF1, 1⟩, ⟨0x1D165, 0x1D166, 1⟩,
   ⟨0x1D16D, 0x1D172, 1⟩, ⟨0xE0020, 0xE007F, 1⟩]

/-- Characters that a quoted text shows as they are: the space and every assigned
character that is neither a separator nor a control of any kind, and that does
not extend the character before it. -/
def shown : CharSet :=
  .union (.range 0x20 0x7E)
    (.without Category.visible
      (.unionAll [Category.separators, .ofRuns Category.nonspacingMark,
        .ofRuns Category.enclosingMark, .ofRuns graphemeExtender]))

end CharClass
end Text
end ItemModels

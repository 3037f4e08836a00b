import ItemModels.Text.CaseFold
import ItemModels.Text.Category

namespace ItemModels
namespace Text
namespace Property

/-!
Properties of letters that come in a small and a capital form.
-/

/-- Small letters of other categories: modifiers, numerals and letters in circles. -/
def otherLowercase : List Run :=
  [⟨0xAA, 0xAA, 1⟩, ⟨0xBA, 0xBA, 1⟩, ⟨0x2B0, 0x2B8, 1⟩, ⟨0x2C0, 0x2C1, 1⟩, ⟨0x2E0, 0x2E4, 1⟩,
   ⟨0x345, 0x345, 1⟩, ⟨0x37A, 0x37A, 1⟩, ⟨0x10FC, 0x10FC, 1⟩, ⟨0x1D2C, 0x1D6A, 1⟩,
   ⟨0x1D78, 0x1D78, 1⟩, ⟨0x1D9B, 0x1DBF, 1⟩, ⟨0x2071, 0x2071, 1⟩, ⟨0x207F, 0x207F, 1⟩,
   ⟨0x2090, 0x209C, 1⟩, ⟨0x2170, 0x217F, 1⟩, ⟨0x24D0, 0x24E9, 1⟩, ⟨0x2C7C, 0x2C7D, 1⟩,
   ⟨0xA69C, 0xA69D, 1⟩, ⟨0xA770, 0xA770, 1⟩, ⟨0xA7F2, 0xA7F4, 1⟩, ⟨0xA7F8, 0xA7F9, 1⟩,
   ⟨0xAB5C, 0xAB5F, 1⟩, ⟨0xAB69, 0xAB69, 1⟩, ⟨0x10780, 0x10780, 1⟩, ⟨0x10783, 0x10785, 1⟩,
   ⟨0x10787, 0x107B0, 1⟩, ⟨0x107B2, 0x107BA, 1⟩, ⟨0x1E030, 0x1E06D, 1⟩]

def lowercase : CharSet :=
  .union (.ofRuns Category.lowercaseLetter) (.ofRuns otherLowercase)

def otherUppercase : List Run :=
  [⟨0x2160, 0x216F, 1⟩, ⟨0x24B6, 0x24CF, 1⟩, ⟨0x1F130, 0x1F149, 1⟩, ⟨0x1F150, 0x1F169, 1⟩,
   ⟨0x1F170, 0x1F189, 1⟩]

def uppercase : CharSet :=
  .union (.ofRuns Category.uppercaseLetter) (.ofRuns otherUppercase)

def cased : CharSet :=
  .unionAll [lowercase, uppercase, .ofRuns Category.titlecaseLetter]

/-- Letters with a dot that a mark above them replaces. -/
def softDotted : List Run :=
  [⟨0x69, 0x6A, 1⟩, ⟨0x12F, 0x12F, 1⟩, ⟨0x249, 0x249, 1⟩, ⟨0x268, 0x268, 1⟩, ⟨0x29D, 0x29D, 1⟩,
   ⟨0x2B2, 0x2B2, 1⟩, ⟨0x3F3, 0x3F3, 1⟩, ⟨0x456, 0x458, 2⟩, ⟨0x1D62, 0x1D62, 1⟩,
   ⟨0x1D96, 0x1D96, 1⟩, ⟨0x1DA4, 0x1DA4, 1⟩, ⟨0x1DA8, 0x1DA8, 1⟩, ⟨0x1E2D, 0x1E2D, 1⟩,
   ⟨0x1ECB, 0x1ECB, 1⟩, ⟨0x2071, 0x2071, 1⟩, ⟨0x2148, 0x2149, 1⟩, ⟨0x2C7C, 0x2C7C, 1⟩,
   ⟨0x1D422, 0x1D423, 1⟩, ⟨0x1D456, 0x1D457, 1⟩, ⟨0x1D48A, 0x1D48B, 1⟩, ⟨0x1D4BE, 0x1D4BF, 1⟩,
   ⟨0x1D4F2, 0x1D4F3, 1⟩, ⟨0x1D526, 0x1D527, 1⟩, ⟨0x1D55A, 0x1D55B, 1⟩, ⟨0x1D58E, 0x1D58F, 1⟩,
   ⟨0x1D5C2, 0x1D5C3, 1⟩, ⟨0x1D5F6, 0x1D5F7, 1⟩, ⟨0x1D62A, 0x1D62B, 1⟩, ⟨0x1D65E, 0x1D65F, 1⟩,
   ⟨0x1D692, 0x1D693, 1⟩, ⟨0x1DF1A, 0x1DF1A, 1⟩, ⟨0x1E04C, 0x1E04D, 1⟩, ⟨0x1E068, 0x1E068, 1⟩]

/-- The code points that simple folding moves. -/
def folded : CharSet := .ofRuns (foldings.map Prod.fst)

/-- The code points to which simple folding moves others. -/
def foldTarget : CharSet :=
  .ofRuns (foldings.map fun (run, offset) =>
    ⟨((run.first : Int) + offset).toNat, ((run.last : Int) + offset).toNat, run.step⟩)

/-- Further characters that full folding changes, to more than one character. -/
def foldedFully : List Run :=
  [⟨0xDF, 0xDF, 1⟩, ⟨0x130, 0x130, 1⟩, ⟨0x149, 0x149, 1⟩, ⟨0x587, 0x587, 1⟩, ⟨0x1E9A, 0x1E9A, 1⟩,
   ⟨0x1F80, 0x1F87, 1⟩, ⟨0x1F90, 0x1F97, 1⟩, ⟨0x1FA0, 0x1FA7, 1⟩, ⟨0x1FB2, 0x1FB4, 1⟩,
   ⟨0x1FB7, 0x1FB7, 1⟩, ⟨0x1FC2, 0x1FC4, 1⟩, ⟨0x1FC7, 0x1FC7, 1⟩, ⟨0x1FF2, 0x1FF4, 1⟩,
   ⟨0x1FF7, 0x1FF7, 1⟩, ⟨0xFB00, 0xFB04, 1⟩, ⟨0xFB06, 0xFB06, 1⟩, ⟨0xFB13, 0xFB17, 1⟩]

/-- Three characters that simple folding moves are equal to others, which are folded already. -/
def changesWhenCasefolded : CharSet :=
  .union (.without folded (.ofCodes [0x1FBE, 0x1FD3, 0x1FE3])) (.ofRuns foldedFully)

/-- What folding changes although it is lowercase. -/
def foldedLowercase : List Run :=
  [⟨0xB5, 0xB5, 1⟩, ⟨0x17F, 0x17F, 1⟩, ⟨0x345, 0x345, 1⟩, ⟨0x3C2, 0x3C2, 1⟩, ⟨0x3D0, 0x3D1, 1⟩,
   ⟨0x3D5, 0x3D6, 1⟩, ⟨0x3F0, 0x3F1, 1⟩, ⟨0x3F5, 0x3F5, 1⟩, ⟨0x13F8, 0x13FD, 1⟩,
   ⟨0x1C80, 0x1C88, 1⟩, ⟨0x1E9B, 0x1E9B, 1⟩, ⟨0x1FBE, 0x1FBE, 1⟩, ⟨0x1FD3, 0x1FD3, 1⟩,
   ⟨0x1FE3, 0x1FE3, 1⟩, ⟨0xAB70, 0xABBF, 1⟩, ⟨0xFB05, 0xFB05, 1⟩]

/-- Lowering changes what folding changes, except for small letters; the letters of one script
are folded to their capitals. -/
def changesWhenLowercased : CharSet :=
  .union (.without folded (.ofRuns foldedLowercase))
    (.ofRuns [⟨0x130, 0x130, 1⟩, ⟨0x13A0, 0x13F5, 1⟩])

/-- Small letters that are not the folded form of their capitals. -/
def raisedApart : List Run :=
  [⟨0xB5, 0xB5, 1⟩, ⟨0x131, 0x131, 1⟩, ⟨0x149, 0x149, 1⟩, ⟨0x17F, 0x17F, 1⟩, ⟨0x1F0, 0x1F0, 1⟩,
   ⟨0x345, 0x345, 1⟩, ⟨0x3C2, 0x3C2, 1⟩, ⟨0x3D0, 0x3D1, 1⟩, ⟨0x3D5, 0x3D6, 1⟩, ⟨0x3F0, 0x3F1, 1⟩,
   ⟨0x3F5, 0x3F5, 1⟩, ⟨0x587, 0x587, 1⟩, ⟨0x13F8, 0x13FD, 1⟩, ⟨0x1C80, 0x1C88, 1⟩,
   ⟨0x1E96, 0x1E9B, 1⟩, ⟨0x1F50, 0x1F56, 2⟩, ⟨0x1FB2, 0x1FB4, 2⟩, ⟨0x1FB6, 0x1FB7, 1⟩,
   ⟨0x1FBE, 0x1FBE, 1⟩, ⟨0x1FC2, 0x1FC4, 2⟩, ⟨0x1FC6, 0x1FC7, 1⟩, ⟨0x1FD2, 0x1FD3, 1⟩,
   ⟨0x1FD6, 0x1FD7, 1⟩, ⟨0x1FE2, 0x1FE4, 1⟩, ⟨0x1FE6, 0x1FE7, 1⟩, ⟨0x1FF2, 0x1FF4, 2⟩,
   ⟨0x1FF6, 0x1FF7, 1⟩, ⟨0xAB70, 0xABBF, 1⟩, ⟨0xFB00, 0xFB05, 1⟩, ⟨0xFB13, 0xFB17, 1⟩]

/-- Raising changes the folded forms of capitals, but not the capitals of the one script that
is folded to them. -/
def changesWhenUppercased : CharSet :=
  .unionAll [.without foldTarget (.range 0x13A0 0x13F5), .ofRuns Category.titlecaseLetter,
    .ofRuns raisedApart]

/-- What raising changes although it may start a title. -/
def raisedTitlecase : List Run :=
  [⟨0x1C5, 0x1CB, 3⟩, ⟨0x1F2, 0x1F2, 1⟩, ⟨0x10D0, 0x10FA, 1⟩, ⟨0x10FD, 0x10FF, 1⟩,
   ⟨0x1F88, 0x1F8F, 1⟩, ⟨0x1F98, 0x1F9F, 1⟩, ⟨0x1FA8, 0x1FAF, 1⟩, ⟨0x1FBC, 0x1FBC, 1⟩,
   ⟨0x1FCC, 0x1FCC, 1⟩, ⟨0x1FFC, 0x1FFC, 1⟩]

def changesWhenTitlecased : CharSet :=
  .union (.without changesWhenUppercased (.ofRuns raisedTitlecase))
    (.ofCodes [0x1C4, 0x1C7, 0x1CA, 0x1F1])

def changesWhenCasemapped : CharSet :=
  .unionAll [changesWhenLowercased, changesWhenUppercased, changesWhenTitlecased]

end Property
end Text
end ItemModels

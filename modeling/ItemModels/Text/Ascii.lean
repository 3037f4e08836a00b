namespace ItemModels
namespace Text

/-!
Text rules that know the ASCII characters only.

Identifiers are compared and stored without regard to the case of the letters
`A` to `Z`; letters outside ASCII keep their case.  Conditions and percentages
may be spaced with the five blanks below.  The vertical tab is not one of them.
-/

/-- The text with its ASCII capitals replaced by small letters. -/
def lowered (text : String) : String :=
  String.ofList (text.toList.map Char.toLower)

/-- Two texts agree up to the case of ASCII letters. -/
def sameLetters (left right : String) : Bool :=
  lowered left == lowered right

theorem sameLetters_eq_true_iff (left right : String) :
    sameLetters left right = true <-> lowered left = lowered right := by
  simp [sameLetters]

/-- Space, tab, line feed, form feed and carriage return. -/
def isBlank (letter : Char) : Bool :=
  letter == ' ' || letter == '\t' || letter == '\n' || letter == '\x0c' || letter == '\r'

def dropBlanks (letters : List Char) : List Char :=
  letters.dropWhile isBlank

theorem length_dropBlanks_le (letters : List Char) :
    (dropBlanks letters).length <= letters.length :=
  (List.dropWhile_sublist isBlank).length_le

def digitValue (digit : Char) : Nat :=
  digit.toNat - 48

/-- The number that a run of decimal digits writes, most significant first. -/
def digitsValue (digits : List Char) : Nat :=
  digits.foldl (fun value digit => 10 * value + digitValue digit) 0

/-- The decimal digits of a number, `0` for zero. -/
def digitsOf (value : Nat) : List Char :=
  Nat.toDigits 10 value

/-- The number of bytes that the characters take in UTF-8. -/
def byteLength (letters : List Char) : Nat :=
  letters.foldl (fun total letter => total + letter.utf8Size) 0

end Text
end ItemModels

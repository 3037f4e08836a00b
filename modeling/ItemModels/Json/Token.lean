import ItemModels.Json.Literal

namespace ItemModels
namespace Json

/-!
The tokens of a JSON text.

A text is cut into tokens without regard to where they stand.  Cutting stops at
the first place that starts no token; a `broken` token marks it.  A string whose
escapes name half of a surrogate pair and a number beyond the binary range are
tokens, because a reader that skips them does not mind; they carry no value.
-/

inductive Token where
  | openArray
  | closeArray
  | openObject
  | closeObject
  | comma
  | colon
  | null
  | bool (value : Bool)
  | number (value : Option JsonNumber)
  | string (text : Option String)
  | broken
deriving DecidableEq

/-- The four characters that may stand between tokens. -/
def isSpace (letter : Char) : Bool :=
  letter == ' ' || letter == '\t' || letter == '\n' || letter == '\r'

def hexValue? (letter : Char) : Option Nat :=
  if letter.isDigit then some (letter.toNat - 48)
  else if 'a' <= letter && letter <= 'f' then some (letter.toNat - 87)
  else if 'A' <= letter && letter <= 'F' then some (letter.toNat - 55)
  else none

/-- The number that four hexadecimal digits write. -/
def unit? (first second third fourth : Char) : Option Nat := do
  let a <- hexValue? first
  let b <- hexValue? second
  let c <- hexValue? third
  let d <- hexValue? fourth
  some (((a * 16 + b) * 16 + c) * 16 + d)

/-- The first half of a surrogate pair. -/
def isLeading (unit : Nat) : Bool := decide (0xD800 <= unit) && decide (unit < 0xDC00)

/-- The second half of a surrogate pair. -/
def isTrailing (unit : Nat) : Bool := decide (0xDC00 <= unit) && decide (unit < 0xE000)

/-- The character that a surrogate pair stands for. -/
def joined (leading trailing : Nat) : Char :=
  Char.ofNat (0x10000 + (leading - 0xD800) * 0x400 + (trailing - 0xDC00))

/-- The character that a letter stands for after a backslash. -/
def unescaped? (letter : Char) : Option Char :=
  if letter == '"' then some '"'
  else if letter == '\\' then some '\\'
  else if letter == '/' then some '/'
  else if letter == 'b' then some '\x08'
  else if letter == 'f' then some '\x0c'
  else if letter == 'n' then some '\n'
  else if letter == 'r' then some '\r'
  else if letter == 't' then some '\t'
  else none

/-- The part of a string read so far. -/
structure Scanned where
  /-- Its characters, the last one first. -/
  letters : List Char
  /-- The first half of a surrogate pair that waits for the second. -/
  leading : Option Nat
  /-- Whether every escape so far names a character or a half that found its other half. -/
  sound : Bool

namespace Scanned

def start : Scanned := ⟨[], none, true⟩

def add (scanned : Scanned) (letter : Char) : Scanned :=
  ⟨letter :: scanned.letters, none, scanned.sound && scanned.leading.isNone⟩

/-- One more escaped unit, which may be half of a surrogate pair. -/
def addUnit (scanned : Scanned) (unit : Nat) : Scanned :=
  match scanned.leading with
  | some leading =>
      if isTrailing unit then ⟨joined leading unit :: scanned.letters, none, scanned.sound⟩
      else ⟨scanned.letters, none, false⟩
  | none =>
      if isLeading unit then ⟨scanned.letters, some unit, scanned.sound⟩
      else if isTrailing unit then ⟨scanned.letters, none, false⟩
      else scanned.add (Char.ofNat unit)

/-- The text, if it has only characters. -/
def text? (scanned : Scanned) : Option String :=
  if scanned.sound && scanned.leading.isNone then some (String.ofList scanned.letters.reverse)
  else none

end Scanned

/-- Reads on in a string up to its closing quote: the text, if it has only characters, and
what follows. -/
def scanString (scanned : Scanned) : List Char -> Option (Option String × List Char)
  | [] => none
  | '"' :: rest => some (scanned.text?, rest)
  | '\\' :: 'u' :: a :: b :: c :: d :: rest =>
      match unit? a b c d with
      | none => none
      | some unit => scanString (scanned.addUnit unit) rest
  | '\\' :: letter :: rest =>
      match unescaped? letter with
      | none => none
      | some plain => scanString (scanned.add plain) rest
  | letter :: rest =>
      if letter == '\\' || decide (letter.toNat < 0x20) then none
      else scanString (scanned.add letter) rest

/-- The digits at the start of a text and what follows, if there are any. -/
def scanDigits? (letters : List Char) : Option (List Char × List Char) :=
  let digits := letters.takeWhile Char.isDigit
  if digits.isEmpty then none else some (digits, letters.dropWhile Char.isDigit)

/-- The whole part of a number, which has no leading zero. -/
def scanWhole? : List Char -> Option (List Char × List Char)
  | '0' :: rest =>
      match rest with
      | next :: _ => if next.isDigit then none else some (['0'], rest)
      | [] => some (['0'], rest)
  | letters => scanDigits? letters

/-- The fraction of a number, empty when no point follows. -/
def scanFraction? : List Char -> Option (List Char × List Char)
  | '.' :: rest => (scanDigits? rest).map fun (digits, after) => ('.' :: digits, after)
  | letters => some ([], letters)

def scanSign : List Char -> List Char × List Char
  | '+' :: rest => (['+'], rest)
  | '-' :: rest => (['-'], rest)
  | letters => ([], letters)

/-- The exponent of a number, empty when none follows. -/
def scanExponent? : List Char -> Option (List Char × List Char)
  | [] => some ([], [])
  | mark :: rest =>
      if mark == 'e' || mark == 'E' then
        let (sign, digits) := scanSign rest
        (scanDigits? digits).map fun (digits, after) => (mark :: (sign ++ digits), after)
      else some ([], mark :: rest)

/-- The literal of a number without its minus, and what follows. -/
def scanMagnitude? (letters : List Char) : Option (List Char × List Char) := do
  let (whole, afterWhole) <- scanWhole? letters
  let (fraction, afterFraction) <- scanFraction? afterWhole
  let (exponent, after) <- scanExponent? afterFraction
  some (whole ++ fraction ++ exponent, after)

/-- What follows the given word at the start of a text. -/
def afterWord? : List Char -> List Char -> Option (List Char)
  | [], letters => some letters
  | expected :: word, letter :: rest => if expected = letter then afterWord? word rest else none
  | _ :: _, [] => none

/-- The token that one character makes by itself. -/
def mark? : Char -> Option Token
  | '[' => some .openArray
  | ']' => some .closeArray
  | '\x7b' => some .openObject
  | '\x7d' => some .closeObject
  | ',' => some .comma
  | ':' => some .colon
  | _ => none

/-- The rest of the word that starts with the given character, and its token. -/
def word? : Char -> Option (List Char × Token)
  | 'n' => some (['u', 'l', 'l'], .null)
  | 't' => some (['r', 'u', 'e'], .bool true)
  | 'f' => some (['a', 'l', 's', 'e'], .bool false)
  | _ => none

/-- The token of a number that starts with the given character, and what follows it. -/
def numberToken? (first : Char) (rest : List Char) : Option (Token × List Char) :=
  if first == '-' then
    (scanMagnitude? rest).map fun (literal, after) =>
      (.number (JsonNumber.ofLiteral? ('-' :: literal)), after)
  else
    (scanMagnitude? (first :: rest)).map fun (literal, after) =>
      (.number (JsonNumber.ofLiteral? literal), after)

/-- The token that starts with the given character, and what follows it. -/
def token? (first : Char) (rest : List Char) : Option (Token × List Char) :=
  match mark? first with
  | some token => some (token, rest)
  | none =>
      match word? first with
      | some (word, token) => (afterWord? word rest).map fun after => (token, after)
      | none =>
          if first == '"' then
            (scanString .start rest).map fun (text, after) => (.string text, after)
          else numberToken? first rest

theorem length_scanDigits_lt {letters digits after : List Char}
    (found : scanDigits? letters = some (digits, after)) : after.length < letters.length := by
  have parts := congrArg List.length
    (List.takeWhile_append_dropWhile (p := Char.isDigit) (l := letters))
  rw [List.length_append] at parts
  unfold scanDigits? at found
  cases taken : letters.takeWhile Char.isDigit with
  | nil => simp [taken] at found
  | cons digit others =>
      rw [taken, List.length_cons] at parts
      simp only [taken, List.isEmpty_cons, Bool.false_eq_true, if_false, Option.some.injEq,
        Prod.mk.injEq] at found
      rw [<- found.2]
      omega

theorem length_scanString_lt {scanned : Scanned} {letters after : List Char} {text : Option String}
    (found : scanString scanned letters = some (text, after)) : after.length < letters.length := by
  fun_induction scanString scanned letters with
  | case1 => cases found
  | case2 =>
      cases found
      exact Nat.lt_succ_self _
  | case3 => cases found
  | case4 =>
      rename_i ih
      have := ih found
      simp only [List.length_cons]
      omega
  | case5 => cases found
  | case6 =>
      rename_i ih
      have := ih found
      simp only [List.length_cons]
      omega
  | case7 => cases found
  | case8 =>
      rename_i ih
      have := ih found
      simp only [List.length_cons]
      omega

theorem length_scanWhole_lt {letters whole after : List Char}
    (found : scanWhole? letters = some (whole, after)) : after.length < letters.length := by
  unfold scanWhole? at found
  split at found
  · split at found
    · split at found
      · cases found
      · cases found
        exact Nat.lt_succ_self _
    · cases found
      exact Nat.lt_succ_self _
  · exact length_scanDigits_lt found

theorem length_scanFraction_le {letters fraction after : List Char}
    (found : scanFraction? letters = some (fraction, after)) :
    after.length <= letters.length := by
  unfold scanFraction? at found
  split at found
  · obtain ⟨⟨digits, others⟩, scanned, same⟩ := Option.map_eq_some_iff.mp found
    cases same
    exact Nat.le_of_lt (Nat.lt_succ_of_lt (length_scanDigits_lt scanned))
  · cases found
    exact Nat.le_refl _

theorem length_scanSign_le (letters : List Char) :
    (scanSign letters).2.length <= letters.length := by
  unfold scanSign
  split
  · exact Nat.le_succ _
  · exact Nat.le_succ _
  · exact Nat.le_refl _

theorem length_scanExponent_le {letters exponent after : List Char}
    (found : scanExponent? letters = some (exponent, after)) :
    after.length <= letters.length := by
  unfold scanExponent? at found
  split at found
  · cases found
    exact Nat.le_refl _
  · rename_i mark rest
    split at found
    · obtain ⟨⟨digits, others⟩, scanned, same⟩ := Option.map_eq_some_iff.mp found
      cases same
      exact Nat.le_of_lt (Nat.lt_succ_of_lt
        (Nat.lt_of_lt_of_le (length_scanDigits_lt scanned) (length_scanSign_le rest)))
    · cases found
      exact Nat.le_refl _

theorem length_scanMagnitude_lt {letters literal after : List Char}
    (found : scanMagnitude? letters = some (literal, after)) :
    after.length < letters.length := by
  unfold scanMagnitude? at found
  obtain ⟨⟨whole, afterWhole⟩, scanWhole, found⟩ := Option.bind_eq_some_iff.mp found
  obtain ⟨⟨fraction, afterFraction⟩, scanFraction, found⟩ := Option.bind_eq_some_iff.mp found
  obtain ⟨⟨exponent, others⟩, scanExponent, same⟩ := Option.bind_eq_some_iff.mp found
  cases same
  exact Nat.lt_of_le_of_lt (length_scanExponent_le scanExponent)
    (Nat.lt_of_le_of_lt (length_scanFraction_le scanFraction) (length_scanWhole_lt scanWhole))

theorem length_afterWord_le {word letters after : List Char}
    (found : afterWord? word letters = some after) : after.length <= letters.length := by
  fun_induction afterWord? word letters with
  | case1 => cases found; exact Nat.le_refl _
  | case2 _ _ _ ih => exact Nat.le_succ_of_le (ih found)
  | case3 => cases found
  | case4 => cases found

theorem length_numberToken_le {first : Char} {rest after : List Char} {token : Token}
    (found : numberToken? first rest = some (token, after)) : after.length <= rest.length := by
  unfold numberToken? at found
  split at found
  · obtain ⟨⟨literal, others⟩, scanned, same⟩ := Option.map_eq_some_iff.mp found
    cases same
    exact Nat.le_of_lt (length_scanMagnitude_lt scanned)
  · obtain ⟨⟨literal, others⟩, scanned, same⟩ := Option.map_eq_some_iff.mp found
    cases same
    exact Nat.le_of_lt_succ (length_scanMagnitude_lt scanned)

theorem length_token_le {first : Char} {rest after : List Char} {token : Token}
    (found : token? first rest = some (token, after)) : after.length <= rest.length := by
  unfold token? at found
  split at found
  · cases found
    exact Nat.le_refl _
  · split at found
    · obtain ⟨others, scanned, same⟩ := Option.map_eq_some_iff.mp found
      cases same
      exact length_afterWord_le scanned
    · split at found
      · obtain ⟨⟨text, others⟩, scanned, same⟩ := Option.map_eq_some_iff.mp found
        cases same
        exact Nat.le_of_lt (length_scanString_lt scanned)
      · exact length_numberToken_le found

theorem length_after_token_lt {letters rest after : List Char} {first : Char} {token : Token}
    (spaced : letters.dropWhile isSpace = first :: rest)
    (cut : token? first rest = some (token, after)) : after.length < letters.length := by
  have shorter := length_token_le cut
  have dropped := (List.dropWhile_sublist (l := letters) isSpace).length_le
  rw [spaced, List.length_cons] at dropped
  omega

def tokensOf (letters : List Char) : List Token :=
  match spaced : letters.dropWhile isSpace with
  | [] => []
  | first :: rest =>
      match cut : token? first rest with
      | none => [.broken]
      | some (token, after) =>
          have := length_after_token_lt spaced cut
          token :: tokensOf after
termination_by letters.length

end Json
end ItemModels

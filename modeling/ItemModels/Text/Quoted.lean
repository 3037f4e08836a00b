import ItemModels.Text.CharClass

namespace ItemModels
namespace Text

/-!
Quoted text.

A quoted text stands between double quotes.  Quotes and backslashes inside it,
and the line feed, the carriage return, the tab and the null character, are
written as a backslash and one letter.  Any other character that a reader could
not see is written by its code point in hexadecimal digits.
-/

/-- The hexadecimal digits of a number, in small letters and without padding. -/
def hexDigits (value : Nat) : List Char :=
  Nat.toDigits 16 value

/-- How one character is written inside quotes. -/
def quotedChar (letter : Char) : List Char :=
  if letter == '"' then ['\\', '"']
  else if letter == '\\' then ['\\', '\\']
  else if letter == '\n' then ['\\', 'n']
  else if letter == '\r' then ['\\', 'r']
  else if letter == '\t' then ['\\', 't']
  else if letter == '\x00' then ['\\', '0']
  else if CharClass.shown.has letter then [letter]
  else '\\' :: 'u' :: '\x7b' :: (hexDigits letter.toNat ++ ['\x7d'])

def quoted (text : String) : String :=
  String.ofList ('"' :: (text.toList.flatMap quotedChar ++ ['"']))

end Text
end ItemModels

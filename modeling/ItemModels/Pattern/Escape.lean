import ItemModels.Json.Token
import ItemModels.Pattern.Options
import ItemModels.Text.Property

namespace ItemModels
namespace Pattern

/-!
Escapes: what a backslash and the characters after it stand for.

An escape is a single character, a set of characters or an edge.  Punctuation
may always be escaped; a letter only if it has a meaning; a digit never, as there
are no references to groups.  The sets called by properties are those of
`Text.Property`: general categories, scripts and their extensions, properties that
hold or do not, ages, and the classes by which texts are segmented.
-/

/-- What an escape or a plain character stands for. -/
inductive Atom where
  | letter (letter : Char)
  | set (set : CharSet)
  | edge (edge : Edge)

def charOf? (code : Nat) : Option Char :=
  if code.isValidChar then some (Char.ofNat code) else none

def charOfHex? (digits : List Char) : Option Char := do
  let values <- digits.mapM Json.hexValue?
  if values.isEmpty then none
  else charOf? (values.foldl (fun code value => code * 16 + value) 0)

/-- Reads a fixed number of digits. -/
def readExactly (options : Options) : Nat -> List Char -> Option (List Char × List Char)
  | 0, letters => some ([], letters)
  | count + 1, letters =>
      match options.advance letters with
      | [] => none
      | letter :: rest =>
          (readExactly options count rest).map fun (digits, after) => (letter :: digits, after)

/-- Reads up to a closing brace. -/
def readBraced (options : Options) (letters : List Char) : Option (List Char × List Char) :=
  match options.take (fun letter => letter != '\x7d') false letters with
  | (content, '\x7d' :: after) => some (content, after)
  | _ => none

/-- Reads the digits of a code point: those in braces, or as many as the letter before them
wants.  Two digits without braces write a byte. -/
def readDigits (options : Options) (count : Nat) (letters : List Char) :
    Option ((List Char × Bool) × List Char) :=
  match letters with
  | '\x7b' :: rest => (readBraced options rest).map fun (digits, after) => ((digits, false), after)
  | rest =>
      (readExactly options count rest).map fun (digits, after) => ((digits, count == 2), after)

/-- The character that the digits of a code point or of a byte write. -/
def Options.coded? (options : Options) (digits : List Char) (byte : Bool) : Option Char :=
  (charOfHex? digits).filter fun letter => !(byte && options.refuses letter)

def readHex (options : Options) (count : Nat) (letters : List Char) :
    Option (Atom × List Char) := do
  let ((digits, byte), after) <- readDigits options count (options.advance letters)
  let letter <- options.coded? digits byte
  some (.letter letter, after)

/-- The parts of a text before and after the first place where a mark stands. -/
def splitMark? (mark : List Char) : List Char -> Option (List Char × List Char)
  | [] => none
  | letter :: rest =>
      if mark.isPrefixOf (letter :: rest) then some ([], (letter :: rest).drop mark.length)
      else (splitMark? mark rest).map fun (before, after) => (letter :: before, after)

/-- The marks between the name of a property and a value of it, in the order in which they
are looked for.  None of them negates: that is left to the letter before the property. -/
def valueMarks : List (List Char) := [['!', '='], [':'], ['=']]

/-- The set that a property calls, by its name alone or by its name and a value. -/
def property? (content : List Char) : Option CharSet :=
  match valueMarks.findSome? fun mark => splitMark? mark content with
  | some (name, value) => Text.Property.valued? name value
  | none => Text.Property.named? content

/-- The set that a property calls under the given options.  Properties reach beyond ASCII. -/
def Options.property? (options : Options) (negated : Bool) (content : List Char) :
    Option CharSet :=
  if options.ascii then .none else (Pattern.property? content).bind (options.written? negated)

/-- Reads the name of a property: one letter, or any text in braces. -/
def readProperty (options : Options) (negated : Bool) (letters : List Char) :
    Option (Atom × List Char) := do
  let (content, after) <- match options.advance letters with
    | [] => none
    | '\x7b' :: rest => readBraced options rest
    | letter :: rest => if letter == '\\' then none else some ([letter], rest)
  let set <- options.property? negated content
  some (.set set, after)

/-- The set that a single letter calls. -/
def classLetter? (options : Options) : Char -> Option CharSet
  | 'd' => some options.digit
  | 's' => some options.space
  | 'w' => some options.word
  | 'D' => options.outside? options.digit
  | 'S' => options.outside? options.space
  | 'W' => options.outside? options.word
  | _ => none

/-- The character or edge that a single letter calls. -/
def letter? (options : Options) : Char -> Option Atom
  | 'a' => some (.letter '\x07')
  | 'f' => some (.letter '\x0c')
  | 't' => some (.letter '\t')
  | 'n' => some (.letter '\n')
  | 'r' => some (.letter '\r')
  | 'v' => some (.letter '\x0b')
  | 'A' => some (.edge .textStart)
  | 'z' => some (.edge .textEnd)
  | 'B' => some (.edge (.noWordEdge options.ascii))
  | '<' => some (.edge (.wordStart options.ascii))
  | '>' => some (.edge (.wordEnd options.ascii))
  | _ => none

def wordEdge? (options : Options) (name : String) : Option Edge :=
  if name == "start" then some (.wordStart options.ascii)
  else if name == "end" then some (.wordEnd options.ascii)
  else if name == "start-half" then some (.halfWordStart options.ascii)
  else if name == "end-half" then some (.halfWordEnd options.ascii)
  else none

/-- Characters of the names of word edges. -/
def isEdgeNameChar (letter : Char) : Bool :=
  letter.isAlpha || letter == '-'

/-- Reads what follows `\b`.  Braces hold the name of an edge if they start with one of its
characters; otherwise they are left to be a repetition. -/
def readWordEdge (options : Options) : List Char -> Option (Atom × List Char)
  | '\x7b' :: rest =>
      match options.advance rest with
      | [] => none
      | letter :: others =>
          if isEdgeNameChar letter then
            match options.take isEdgeNameChar false (letter :: others) with
            | (name, '\x7d' :: after) =>
                (wordEdge? options (String.ofList name)).map fun edge => (.edge edge, after)
            | _ => none
          else some (.edge (.wordEdge options.ascii), '\x7b' :: rest)
  | letters => some (.edge (.wordEdge options.ascii), letters)

/-- Characters that stand for themselves after a backslash. -/
def isPlainEscape (letter : Char) : Bool :=
  decide (letter.toNat < 128) && !letter.isAlphanum && letter != '<' && letter != '>'

/-- Reads what follows a backslash. -/
def readEscape (options : Options) : List Char -> Option (Atom × List Char)
  | [] => none
  | 'x' :: rest => readHex options 2 rest
  | 'u' :: rest => readHex options 4 rest
  | 'U' :: rest => readHex options 8 rest
  | 'p' :: rest => readProperty options false rest
  | 'P' :: rest => readProperty options true rest
  | 'b' :: rest => readWordEdge options rest
  | letter :: rest =>
      match classLetter? options letter with
      | some set => some (.set set, rest)
      | none =>
          if isPlainEscape letter then some (.letter letter, rest)
          else (letter? options letter).map fun atom => (atom, rest)

end Pattern
end ItemModels

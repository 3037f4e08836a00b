import ItemModels.Pattern.Basic
import ItemModels.Text.CaseFold

namespace ItemModels
namespace Pattern

/-!
The options under which a pattern text is read, and the blanks and comments that
one of them allows.

Options are set by letters at the start of a group or for the rest of one.
Whether repetitions are reluctant has no effect on a match, because only whether a
pattern matches is asked and never where.

The letter `u` is set from the start.  Where it is cleared, digits, spaces, words and
letter case are those of ASCII, and a text is refused for whatever would match a part
of a character outside ASCII: the dot, a negated set, a property, a character outside
ASCII between brackets, and a byte of two digits beyond ASCII.  A plain character
outside ASCII still stands for itself.
-/

/-- The options in force at a place of a pattern text. -/
structure Options where
  ignoreCase : Bool
  /-- `^` and `$` also match at line feeds. -/
  multiLine : Bool
  /-- The dot also matches line feeds. -/
  dotAll : Bool
  /-- White space and comments are passed over. -/
  spaced : Bool
  /-- Carriage returns end lines too. -/
  returns : Bool
  /-- Repetitions are reluctant unless marked. -/
  reluctant : Bool
  /-- Sets, edges of words and letter case are those of ASCII. -/
  ascii : Bool
deriving DecidableEq, Repr

namespace Options

def none : Options := ⟨false, false, false, false, false, false, false⟩

/-- Sets or clears the option of a letter. -/
def set (options : Options) (letter : Char) (value : Bool) : Options :=
  match letter with
  | 'i' => { options with ignoreCase := value }
  | 'm' => { options with multiLine := value }
  | 's' => { options with dotAll := value }
  | 'x' => { options with spaced := value }
  | 'R' => { options with returns := value }
  | 'U' => { options with reluctant := value }
  | 'u' => { options with ascii := !value }
  | _ => options

/-- Sets and clears options in order. -/
def update (options : Options) (settings : List (Char × Bool)) : Options :=
  settings.foldl (fun current (letter, value) => current.set letter value) options

/-- A set of characters, without regard to case if the options say so. -/
def fold (options : Options) (set : CharSet) : CharSet :=
  if !options.ignoreCase then set
  else if options.ascii then Text.foldClosureAscii set else Text.foldClosure set

/-- What is outside a set.  Under `ascii` that would reach beyond ASCII. -/
def outside? (options : Options) (set : CharSet) : Option CharSet :=
  if options.ascii then .none else some (.complement set)

/-- A set, or what is outside of it, in either case after it is closed under case. -/
def written? (options : Options) (negated : Bool) (set : CharSet) : Option CharSet :=
  if negated then options.outside? (options.fold set) else some (options.fold set)

/-- Whether a character may not stand between brackets. -/
def refuses (options : Options) (letter : Char) : Bool :=
  options.ascii && decide (0x80 <= letter.toNat)

def digit (options : Options) : CharSet :=
  if options.ascii then Text.CharClass.asciiDigit else Text.CharClass.digit

def space (options : Options) : CharSet :=
  if options.ascii then Text.CharClass.asciiSpace else Text.CharClass.space

def word (options : Options) : CharSet :=
  if options.ascii then Text.CharClass.asciiWord else Text.CharClass.word

/-- The characters that a dot matches. -/
def dot? (options : Options) : Option CharSet :=
  if options.ascii then .none
  else if options.dotAll then some Text.Category.any
  else if options.returns then some (.complement (.ofChars ['\r', '\n']))
  else some (.complement (.single '\n'))

def caret (options : Options) : Edge :=
  if !options.multiLine then .textStart
  else if options.returns then .returnLineStart else .lineStart

def dollar (options : Options) : Edge :=
  if !options.multiLine then .textEnd
  else if options.returns then .returnLineEnd else .lineEnd

/-- Takes characters while they pass a test, and gives them and the rest of the text.
Where blanks are allowed, white space and comments from `#` to the end of the line
are passed over before each character. -/
def take (options : Options) (test : Char -> Bool) (inComment : Bool) :
    List Char -> List Char × List Char
  | [] => ([], [])
  | letter :: rest =>
      if inComment then take options test (letter != '\n') rest
      else if options.spaced && Text.CharClass.space.has letter then take options test false rest
      else if options.spaced && letter == '#' then take options test true rest
      else if test letter then
        let (taken, after) := take options test false rest
        (letter :: taken, after)
      else ([], letter :: rest)

/-- The text from its next significant character. -/
def advance (options : Options) (letters : List Char) : List Char :=
  (options.take (fun _ => false) false letters).2

end Options

/-- Reads the letters that set options up to a colon or a closing parenthesis, which
comes second.  No letter may come twice, a minus comes once at most and not last, and
the letters after it clear their options. -/
def readSettings (seen : List Char) (cleared danglingMinus : Bool) :
    List Char -> Option (List (Char × Bool) × Char × List Char)
  | [] => none
  | letter :: rest =>
      if letter == ':' || letter == ')' then
        if danglingMinus then none else some ([], letter, rest)
      else if letter == '-' then
        if cleared then none else readSettings seen true true rest
      else if ['i', 'm', 's', 'U', 'u', 'R', 'x'].contains letter && !seen.contains letter then
        (readSettings (letter :: seen) cleared false rest).map fun (settings, mark, after) =>
          ((letter, !cleared) :: settings, mark, after)
      else none

end Pattern
end ItemModels

import ItemModels.Text.Ascii

namespace ItemModels
namespace Text

/-!
Reports on a text that could not be read, with a caret under the place.

A place is a number of bytes from the start of the text.  A text without line
feeds is shown whole; otherwise the line of the place is shown with its number.
-/

/-- What a reader wanted at the place where it stopped. -/
inductive Wanted where
  | relation
  | threshold
  | smallerThreshold
  | percentage
  | theEnd
deriving DecidableEq, Repr

def Wanted.words : Wanted -> String
  | .relation => "expected comparison operator"
  | .threshold => "expected threshold"
  | .smallerThreshold => "expected threshold\nnumber too large to fit in target type"
  | .percentage => "expected percentage"
  | .theEnd => ""

/-- The characters that end within the first `offset` bytes, and the others. -/
def splitAtByte (offset : Nat) : List Char -> List Char × List Char
  | [] => ([], [])
  | letter :: rest =>
      if offset < letter.utf8Size then ([], letter :: rest)
      else
        let (before, after) := splitAtByte (offset - letter.utf8Size) rest
        (letter :: before, after)

/-- The place in a text of one line. -/
def pointInLine (text : String) (offset : Nat) : String :=
  text ++ "\n" ++ String.ofList (List.replicate offset ' ') ++ "^\n"

/-- The place in a text of several lines.  The end of the text is shown one column after
its last character.  Columns count characters, but bytes when the character at the
place is outside ASCII. -/
def pointInLines (text : String) (offset : Nat) : String :=
  let letters := text.toList
  let byte := min offset (byteLength letters - 1)
  let (before, after) := splitAtByte byte letters
  let line := 1 + before.count '\n'
  let left := (before.reverse.takeWhile fun letter => letter != '\n').reverse
  let wide := match after with
    | letter :: _ => decide (1 < letter.utf8Size)
    | [] => false
  let column := (if wide then byteLength left else left.length) + (offset - byte)
  let shown := left ++ after.takeWhile fun letter => letter != '\n'
  let margin := String.ofList (List.replicate line.repr.length ' ')
  "parse error at line " ++ line.repr ++ ", column " ++ (column + 1).repr ++ "\n" ++
    margin ++ " |\n" ++
    line.repr ++ " | " ++ String.ofList shown ++ "\n" ++
    margin ++ " | " ++ String.ofList (List.replicate column ' ') ++ "^\n"

/-- A text that was not read to its end. -/
structure Misread where
  text : String
  /-- The number of bytes before the place where reading stopped. -/
  offset : Nat
  wanted : Wanted
deriving DecidableEq, Repr

namespace Misread

/-- The report on a text of which the given characters were left. -/
def leaving (text : String) (rest : List Char) (wanted : Wanted) : Misread :=
  { text, offset := byteLength text.toList - byteLength rest, wanted }

def message (misread : Misread) : String :=
  let pointed :=
    if misread.text.toList.contains '\n' then pointInLines misread.text misread.offset
    else pointInLine misread.text misread.offset
  "not a condition: " ++ pointed ++ misread.wanted.words

end Misread
end Text
end ItemModels

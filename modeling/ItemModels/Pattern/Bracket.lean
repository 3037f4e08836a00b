import ItemModels.Pattern.Escape

namespace ItemModels
namespace Pattern

/-!
Bracketed sets, such as `[a-z&&[^aeiou]]`.

Between brackets stand characters, ranges, escapes that are sets, named ASCII
classes and further brackets.  The operators `&&`, `--` and `~~` bind weaker than
their operands' adjacency, have one rank, and group from the left.  Where case
is ignored, each operand and each bracket is closed under case before it is
combined or negated.  Where only ASCII may be matched, a character outside it is
refused between brackets, and so is every negation.
-/

/-- An operator between two parts of a bracket. -/
inductive SetOperator where
  | meet
  | without
  | either
deriving DecidableEq, Repr

/-- A set with the depth of the expression that wrote it. -/
structure DeepSet where
  set : CharSet
  depth : Nat

namespace DeepSet

def single (letter : Char) : DeepSet := ⟨.single letter, 0⟩

/-- The union of items, the last one first. -/
def ofItems (items : List DeepSet) : DeepSet :=
  match items with
  | [] => ⟨.empty, 0⟩
  | [item] => item
  | _ =>
      { set := .unionAll (items.map DeepSet.set)
        depth := 1 + (items.map DeepSet.depth).foldl max 0 }

def combine (options : Options) (operator : SetOperator) (left right : DeepSet) : DeepSet :=
  let one := options.fold left.set
  let two := options.fold right.set
  { set := match operator with
      | .meet => .meet one two
      | .without => .without one two
      | .either => .either one two
    depth := 1 + max left.depth right.depth }

/-- A set between brackets. -/
def bracketed? (options : Options) (negated : Bool) (content : DeepSet) : Option DeepSet :=
  (options.written? negated content.set).map fun set => ⟨set, 1 + content.depth⟩

end DeepSet

/-- What waits for the part of a bracket that is being read. -/
inductive Waiting where
  /-- An open bracket, with the items that stand before it in the bracket around it. -/
  | bracket (before : List DeepSet) (negated : Bool)
  /-- An operator with its left operand. -/
  | operand (operator : SetOperator) (left : DeepSet)

/-- The classes of ASCII characters that have a name. -/
def asciiClasses : List (String × CharSet) :=
  [("alnum", .ofRuns [⟨0x30, 0x39, 1⟩, ⟨0x41, 0x5A, 1⟩, ⟨0x61, 0x7A, 1⟩]),
   ("alpha", .ofRuns [⟨0x41, 0x5A, 1⟩, ⟨0x61, 0x7A, 1⟩]),
   ("ascii", .range 0x00 0x7F),
   ("blank", .ofChars ['\t', ' ']),
   ("cntrl", .ofRuns [⟨0x00, 0x1F, 1⟩, ⟨0x7F, 0x7F, 1⟩]),
   ("digit", Text.CharClass.asciiDigit),
   ("graph", .range 0x21 0x7E),
   ("lower", .range 0x61 0x7A),
   ("print", .range 0x20 0x7E),
   ("punct", .ofRuns [⟨0x21, 0x2F, 1⟩, ⟨0x3A, 0x40, 1⟩, ⟨0x5B, 0x60, 1⟩, ⟨0x7B, 0x7E, 1⟩]),
   ("space", Text.CharClass.asciiSpace),
   ("upper", .range 0x41 0x5A),
   ("word", Text.CharClass.asciiWord),
   ("xdigit", .ofRuns [⟨0x30, 0x39, 1⟩, ⟨0x41, 0x46, 1⟩, ⟨0x61, 0x66, 1⟩])]

/-- Reads `:name:]` or `:^name:]` after a bracket, if that is what follows.  There is no set
if the options do not allow it. -/
def readAsciiClass? (options : Options) : List Char -> Option (Option DeepSet × List Char)
  | ':' :: rest =>
      let (negated, body) := match rest with
        | '^' :: others => (true, others)
        | others => (false, others)
      let name := String.ofList (body.takeWhile fun letter => letter != ':')
      match body.dropWhile fun letter => letter != ':' with
      | ':' :: ']' :: after =>
          (asciiClasses.find? fun entry => entry.1 == name).map fun entry =>
            ((options.written? negated entry.2).map fun set => ⟨set, 0⟩, after)
      | _ => none
  | _ => none

/-- Reads the start of a bracket: a caret that negates, hyphens, and a closing bracket that
is the first item.  Gives whether it is negated and its first items. -/
def openBracket (options : Options) (letters : List Char) : Bool × List DeepSet × List Char :=
  let (negated, body) := match options.advance letters with
    | '^' :: rest => (true, options.advance rest)
    | rest => (false, rest)
  let (hyphens, rest) := options.take (fun letter => letter == '-') false body
  match hyphens, rest with
  | [], ']' :: after => (negated, [.single ']'], after)
  | _, _ => (negated, hyphens.map DeepSet.single, rest)

/-- Reads a character or an escape. -/
def readAtom (options : Options) : List Char -> Option (Atom × List Char)
  | [] => none
  | '\\' :: rest => readEscape options rest
  | letter :: rest => some (.letter letter, rest)

/-- An atom as an item; edges are none. -/
def Atom.item? (options : Options) : Atom -> Option DeepSet
  | .letter plain => if options.refuses plain then none else some (.single plain)
  | .set members => some ⟨members, 0⟩
  | .edge _ => none

/-- The range between two atoms, which must be characters in ascending order. -/
def range? (options : Options) : Atom -> Atom -> Option DeepSet
  | .letter first, .letter last =>
      if options.refuses last || decide (last.toNat < first.toNat) then none
      else some ⟨.range first.toNat last.toNat, 0⟩
  | _, _ => none

/-- Reads an item.  A hyphen after it makes a range, unless it closes the bracket or starts
an operator. -/
def readItem (options : Options) (letters : List Char) : Option (DeepSet × List Char) := do
  let (first, rest) <- readAtom options letters
  match options.advance rest with
  | '-' :: others =>
      match options.advance others with
      | [] => none
      | ']' :: _ => (first.item? options).map fun item => (item, '-' :: others)
      | '-' :: _ => (first.item? options).map fun item => (item, '-' :: others)
      | upper => do
          let (last, after) <- readAtom options upper
          let item <- range? options first last
          some (item, after)
  | [] => none
  | after => (first.item? options).map fun item => (item, after)

/-- Gives the operand of a waiting operator to it. -/
def settle (options : Options) (content : DeepSet) : List Waiting -> DeepSet × List Waiting
  | .operand operator left :: waiting => (.combine options operator left content, waiting)
  | waiting => (content, waiting)

/-- The operator at the start of a text. -/
def operator? : List Char -> Option (SetOperator × List Char)
  | '&' :: '&' :: rest => some (.meet, rest)
  | '-' :: '-' :: rest => some (.without, rest)
  | '~' :: '~' :: rest => some (.either, rest)
  | _ => none

/-- Reads on in a bracket to its end.  Every round takes a character, so that the length
of the text bounds their number. -/
def readBracketFrom (options : Options) :
    Nat -> List Waiting -> List DeepSet -> List Char -> Option (DeepSet × List Char)
  | 0, _, _, _ => none
  | rounds + 1, waiting, items, letters =>
      match options.advance letters with
      | [] => none
      | '[' :: rest =>
          match readAsciiClass? options rest with
          | some (named, after) =>
              named.bind fun item => readBracketFrom options rounds waiting (item :: items) after
          | none =>
              let (negated, inner, after) := openBracket options rest
              readBracketFrom options rounds (.bracket items negated :: waiting) inner after
      | ']' :: rest =>
          let (content, others) := settle options (.ofItems items) waiting
          match others with
          | .bracket _ negated :: [] =>
              (content.bracketed? options negated).map fun item => (item, rest)
          | .bracket before negated :: outer =>
              (content.bracketed? options negated).bind fun item =>
                readBracketFrom options rounds outer (item :: before) rest
          | _ => none
      | letter :: rest =>
          match operator? (letter :: rest) with
          | some (operator, after) =>
              let (left, others) := settle options (.ofItems items) waiting
              readBracketFrom options rounds (.operand operator left :: others) [] after
          | none => do
              let (item, after) <- readItem options (letter :: rest)
              readBracketFrom options rounds waiting (item :: items) after

def readBracket (options : Options) (letters : List Char) : Option (DeepSet × List Char) :=
  let (negated, items, rest) := openBracket options letters
  readBracketFrom options letters.length [.bracket [] negated] items rest

end Pattern
end ItemModels

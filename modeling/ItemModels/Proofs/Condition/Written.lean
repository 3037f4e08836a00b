import ItemModels.Condition.Read
import Mathlib.Data.List.SplitBy

namespace ItemModels
namespace Condition

/-!
# Written conditions

A written condition is a comparison followed by further comparisons, each after
blanks and a connective, and by blanks at the end.  Blanks may also stand before
the sign of a relation and before its threshold.  Leading zeros are allowed as
long as the threshold fits a 32-bit word.

A structure for each part keeps all that the text shows, blanks and zeros
included, so that a written form is more than the condition which it means.
`Written.text_injective` says that a text has at most one written form.
-/

/-! ## Runs of letters of one kind -/

/-- The letters do not go on with one of the kind. -/
def Ends (kind : Char -> Bool) (letters : List Char) : Prop :=
  ∀ letter ∈ letters.head?, kind letter = false

theorem ends_nil (kind : Char -> Bool) : Ends kind [] := by
  rintro letter ⟨⟩

theorem ends_cons {kind : Char -> Bool} {letter : Char} (other : kind letter = false)
    (rest : List Char) : Ends kind (letter :: rest) := by
  rintro _ ⟨⟩
  exact other

theorem ends_dropWhile (kind : Char -> Bool) (letters : List Char) :
    Ends kind (letters.dropWhile kind) := by
  intro letter first
  have stops := List.head?_dropWhile_not kind letters
  rw [Option.mem_def.mp first] at stops
  simpa using stops

/-- Letters of another kind may come first; what follows them matters only when there are none. -/
theorem ends_append {kind : Char -> Bool} {run rest : List Char}
    (others : ∀ letter ∈ run, kind letter = false) (ends : run = [] -> Ends kind rest) :
    Ends kind (run ++ rest) := by
  cases run with
  | nil => exact ends rfl
  | cons letter _ => exact ends_cons (others letter List.mem_cons_self) _

theorem isDigit_of_isBlank {letter : Char} (blank : Text.isBlank letter = true) :
    letter.isDigit = false := by
  simp only [Text.isBlank, Bool.or_eq_true, beq_iff_eq] at blank
  rcases blank with (((rfl | rfl) | rfl) | rfl) | rfl <;> decide

theorem isBlank_of_isDigit {letter : Char} (digit : letter.isDigit = true) :
    Text.isBlank letter = false := by
  by_contra blank
  rw [isDigit_of_isBlank (by simpa using blank)] at digit
  cases digit

/-- Letters of which only one is of a kind differ. -/
theorem beq_eq_false_of_kind {kind : Char -> Bool} {letter other : Char}
    (inside : kind letter = true) (outside : kind other = false) : (letter == other) = false := by
  rw [beq_eq_false_iff_ne]
  rintro rfl
  rw [outside] at inside
  cases inside

section Runs

variable {kind : Char -> Bool} {run rest : List Char}

theorem takeWhile_run (each : ∀ letter ∈ run, kind letter = true) (ends : Ends kind rest) :
    (run ++ rest).takeWhile kind = run := by
  rw [List.takeWhile_append_of_pos each]
  cases rest with
  | nil => simp
  | cons letter others => simp [ends letter rfl]

theorem dropWhile_run (each : ∀ letter ∈ run, kind letter = true) (ends : Ends kind rest) :
    (run ++ rest).dropWhile kind = rest := by
  rw [List.dropWhile_append_of_pos each]
  cases rest with
  | nil => simp
  | cons letter others => simp [ends letter rfl]

/-- A run of a kind and what follows it are fixed by the text. -/
theorem run_unique {otherRun otherRest : List Char}
    (each : ∀ letter ∈ run, kind letter = true) (ends : Ends kind rest)
    (otherEach : ∀ letter ∈ otherRun, kind letter = true) (otherEnds : Ends kind otherRest)
    (same : run ++ rest = otherRun ++ otherRest) : run = otherRun ∧ rest = otherRest := by
  have runs := congrArg (List.takeWhile kind) same
  have rests := congrArg (List.dropWhile kind) same
  rw [takeWhile_run each ends, takeWhile_run otherEach otherEnds] at runs
  rw [dropWhile_run each ends, dropWhile_run otherEach otherEnds] at rests
  exact ⟨runs, rests⟩

end Runs

/-! ## The parts of a written condition -/

/-- A run of blanks, which may be empty. -/
@[ext]
structure Blanks where
  letters : List Char
  blank : ∀ letter ∈ letters, Text.isBlank letter = true

/-- A comparison with the blanks before its sign and before its threshold. -/
@[ext]
structure WrittenComparison where
  before : Blanks
  relation : Relation
  inside : Blanks
  digits : List Char
  nonempty : digits ≠ []
  decimal : ∀ digit ∈ digits, digit.isDigit = true
  bounded : Text.digitsValue digits <= greatestThreshold

/-- A further comparison, after a connective with the blanks before it. -/
@[ext]
structure Link where
  before : Blanks
  connective : Connective
  next : WrittenComparison

/-- A condition as it is written. -/
@[ext]
structure Written where
  first : WrittenComparison
  links : List Link
  after : Blanks

/-- The character of a connective. -/
def Connective.mark : Connective -> Char
  | .both => '&'
  | .either => '|'

/-- The relation between whole numbers that is meant. -/
def Relates : Relation -> Int -> Int -> Prop
  | .less, value, threshold => value < threshold
  | .greater, value, threshold => threshold < value
  | .atMost, value, threshold => value <= threshold
  | .atLeast, value, threshold => threshold <= value
  | .equal, value, threshold => value = threshold
  | .different, value, threshold => value ≠ threshold

namespace WrittenComparison

def letters (written : WrittenComparison) : List Char :=
  written.before.letters ++ (written.relation.sign.toList ++
    (written.inside.letters ++ written.digits))

/-- The number that the digits write. -/
def threshold (written : WrittenComparison) : Nat :=
  Text.digitsValue written.digits

/-- The comparison that is meant. -/
def comparison (written : WrittenComparison) : Comparison :=
  ⟨written.relation, Int32.ofNat written.threshold⟩

/-- The number stands in the written relation to the written threshold. -/
def Holds (written : WrittenComparison) (value : Int) : Prop :=
  Relates written.relation value written.threshold

end WrittenComparison

namespace Link

def letters (link : Link) : List Char :=
  link.before.letters ++ link.connective.mark :: link.next.letters

/-- The connective and the comparison that is meant. -/
def joined (link : Link) : Connective × Comparison :=
  (link.connective, link.next.comparison)

end Link

/-- Comparisons, each with the connective before it, split wherever that is not `&`. -/
def splitRuns (joined : List (Connective × WrittenComparison)) : List (List WrittenComparison) :=
  (joined.splitBy fun _ next => next.1 == .both).map fun run => run.map Prod.snd

namespace Written

def letters (written : Written) : List Char :=
  written.first.letters ++ (written.links.flatMap Link.letters ++ written.after.letters)

/-- The whole text. -/
def text (written : Written) : String :=
  String.ofList written.letters

/-- The comparisons in the order of the text, split wherever `|` stands. -/
def runs (written : Written) : List (List WrittenComparison) :=
  splitRuns ((.either, written.first) :: written.links.map fun link => (link.connective, link.next))

/-- The condition that is meant: a conjunction for each run, and in it a comparison for each
member of the run. -/
def condition (written : Written) : Condition :=
  ⟨written.runs.map fun run => ⟨run.map WrittenComparison.comparison⟩⟩

/-- All comparisons of some run hold. -/
def Holds (written : Written) (value : Int) : Prop :=
  ∃ run ∈ written.runs, ∀ comparison ∈ run, comparison.Holds value

end Written

/-! ## At most one written form -/

/-- A sign is read as its relation, unless an `=` after it would make it longer. -/
theorem readRelation_sign (relation : Relation) {rest : List Char}
    (ends : Ends (fun letter => letter == '=') rest) :
    readRelation? (relation.sign.toList ++ rest) = some (relation, rest) := by
  cases rest with
  | nil => cases relation <;> rfl
  | cons letter others =>
      have other : letter ≠ '=' := by simpa using ends letter rfl
      cases relation <;> simp [Relation.sign, readRelation?, other]

theorem ends_sign (relation : Relation) (rest : List Char) :
    Ends Text.isBlank (relation.sign.toList ++ rest) := by
  cases relation <;> exact ends_cons (by decide) _

namespace WrittenComparison

variable (written : WrittenComparison) (rest : List Char)

theorem letters_append : written.letters ++ rest =
    written.before.letters ++ (written.relation.sign.toList ++
      (written.inside.letters ++ (written.digits ++ rest))) := by
  simp [letters]

theorem ends_digits : Ends Text.isBlank (written.digits ++ rest) := by
  refine ends_append (fun digit mem => isBlank_of_isDigit (written.decimal digit mem)) ?_
  intro empty
  exact absurd empty written.nonempty

/-- What follows the sign does not make it longer. -/
theorem ends_inside :
    Ends (fun letter => letter == '=') (written.inside.letters ++ (written.digits ++ rest)) := by
  refine ends_append ?_ (fun _ => ends_append ?_ ?_)
  · intro letter mem
    exact beq_eq_false_of_kind (written.inside.blank letter mem) (by decide)
  · intro digit mem
    exact beq_eq_false_of_kind (written.decimal digit mem) (by decide)
  · intro empty
    exact absurd empty written.nonempty

/-- A comparison at the start of a text is fixed by the text, if no digit goes on after it. -/
theorem letters_unique {left right : WrittenComparison} {leftRest rightRest : List Char}
    (leftEnds : Ends Char.isDigit leftRest) (rightEnds : Ends Char.isDigit rightRest)
    (same : left.letters ++ leftRest = right.letters ++ rightRest) :
    left = right ∧ leftRest = rightRest := by
  rw [letters_append, letters_append] at same
  rcases run_unique left.before.blank (ends_sign left.relation _)
    right.before.blank (ends_sign right.relation _) same with ⟨before, signs⟩
  have read := congrArg readRelation? signs
  rw [readRelation_sign _ (left.ends_inside _), readRelation_sign _ (right.ends_inside _)] at read
  rcases Prod.mk.inj (Option.some.inj read) with ⟨relation, numbers⟩
  rcases run_unique left.inside.blank (left.ends_digits _)
    right.inside.blank (right.ends_digits _) numbers with ⟨inside, digits⟩
  rcases run_unique left.decimal leftEnds right.decimal rightEnds digits with ⟨digits, rests⟩
  exact ⟨WrittenComparison.ext (Blanks.ext before) relation (Blanks.ext inside) digits, rests⟩

end WrittenComparison

namespace Link

theorem letters_append (link : Link) (rest : List Char) : link.letters ++ rest =
    link.before.letters ++ link.connective.mark :: (link.next.letters ++ rest) := by
  simp [letters]

theorem isBlank_mark (connective : Connective) : Text.isBlank connective.mark = false := by
  cases connective <;> decide

/-- No digit goes on where links follow. -/
theorem ends_links (links : List Link) {rest : List Char} (ends : Ends Char.isDigit rest) :
    Ends Char.isDigit (links.flatMap letters ++ rest) := by
  cases links with
  | nil => exact ends
  | cons link others =>
      rw [List.flatMap_cons, List.append_assoc, letters_append]
      refine ends_append (fun letter mem => isDigit_of_isBlank (link.before.blank letter mem)) ?_
      intro _
      refine ends_cons ?_ _
      cases link.connective <;> decide

end Link

theorem Blanks.ends (blanks : Blanks) : Ends Char.isDigit blanks.letters := by
  rw [← List.append_nil blanks.letters]
  exact ends_append (fun letter mem => isDigit_of_isBlank (blanks.blank letter mem))
    fun _ => ends_nil _

/-- Blanks alone are not the start of a link. -/
theorem Blanks.ne_link (blanks : Blanks) (link : Link) (rest : List Char) :
    blanks.letters ≠ link.letters ++ rest := by
  intro same
  have mem : link.connective.mark ∈ blanks.letters := by simp [same, Link.letters]
  have blank := blanks.blank _ mem
  rw [Link.isBlank_mark] at blank
  cases blank

/-- Links and the blanks after them are fixed by the text. -/
theorem Link.links_unique {left right : List Link} {leftAfter rightAfter : Blanks}
    (same : left.flatMap letters ++ leftAfter.letters =
      right.flatMap letters ++ rightAfter.letters) :
    left = right ∧ leftAfter = rightAfter := by
  induction left generalizing right with
  | nil =>
      cases right with
      | nil => exact ⟨rfl, Blanks.ext same⟩
      | cons link others =>
          rw [List.flatMap_cons, List.append_assoc] at same
          exact absurd same (leftAfter.ne_link link _)
  | cons link others inductionHypothesis =>
      cases right with
      | nil =>
          rw [List.flatMap_cons, List.append_assoc] at same
          exact absurd same.symm (rightAfter.ne_link link _)
      | cons link' others' =>
          rw [List.flatMap_cons, List.flatMap_cons, List.append_assoc, List.append_assoc,
            letters_append, letters_append] at same
          rcases run_unique link.before.blank (ends_cons (isBlank_mark _) _)
            link'.before.blank (ends_cons (isBlank_mark _) _) same with ⟨before, marks⟩
          rcases List.cons.inj marks with ⟨mark, comparisons⟩
          rcases WrittenComparison.letters_unique
            (ends_links others leftAfter.ends) (ends_links others' rightAfter.ends) comparisons with
            ⟨next, rests⟩
          rcases inductionHypothesis rests with ⟨rfl, after⟩
          have connective : link.connective = link'.connective := by
            cases one : link.connective <;> cases other : link'.connective <;>
              simp_all [Connective.mark]
          exact ⟨congrArg (· :: others) (Link.ext (Blanks.ext before) connective next), after⟩

/-- A text has at most one written form. -/
theorem Written.text_injective : Function.Injective Written.text := by
  intro left right same
  have letters := String.ofList_injective same
  rcases WrittenComparison.letters_unique
    (Link.ends_links left.links left.after.ends) (Link.ends_links right.links right.after.ends)
    letters with ⟨first, rests⟩
  rcases Link.links_unique rests with ⟨links, after⟩
  exact Written.ext first links after

end Condition
end ItemModels

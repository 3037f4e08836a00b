import ItemModels.Proofs.Condition.Written
import Mathlib.Data.List.TakeWhile

namespace ItemModels
namespace Condition

/-!
# Reading written conditions

The reader accepts exactly the written conditions.  Each part of it is shown
from both sides: what it reads begins with a written part, and a written part is
read whole as long as the text does not go on with a digit.  The loop over
further comparisons may leave a connective behind, but such a leftover is not
blank, so the whole text is refused.

The reader collects conjunctions while it goes from right to left.  They are the
runs into which the bars divide the written comparisons.
-/

open Text (dropBlanks)

/-! ## Comparisons -/

theorem sign_of_readRelation {letters rest : List Char} {relation : Relation}
    (read : readRelation? letters = some (relation, rest)) :
    letters = relation.sign.toList ++ rest := by
  unfold readRelation? at read
  split at read <;> cases read <;> rfl

theorem readThreshold_eq_ok_iff {letters rest : List Char} {threshold : Int32} :
    readThreshold letters = .ok (threshold, rest) <->
      ∃ digits : List Char, digits ≠ [] ∧ (∀ digit ∈ digits, digit.isDigit = true) ∧
        Text.digitsValue digits <= greatestThreshold ∧
        threshold = Int32.ofNat (Text.digitsValue digits) ∧
        letters = digits ++ rest ∧ Ends Char.isDigit rest := by
  constructor
  · intro read
    unfold readThreshold at read
    simp only [] at read
    split at read
    · cases read
    · rename_i nonempty
      split at read
      · cases read
      · rename_i bounded
        cases read
        refine ⟨letters.takeWhile Char.isDigit, ?_, ?_, Nat.le_of_not_lt bounded, rfl, ?_, ?_⟩
        · simpa using nonempty
        · exact fun digit mem => List.mem_takeWhile_imp mem
        · exact List.takeWhile_append_dropWhile.symm
        · exact ends_dropWhile Char.isDigit letters
  · rintro ⟨digits, nonempty, decimal, bounded, rfl, rfl, ends⟩
    have notEmpty : digits.isEmpty = false := by simpa using nonempty
    simp [readThreshold, takeWhile_run decimal ends, dropWhile_run decimal ends, notEmpty,
      Nat.not_lt.mpr bounded]

/-- The blanks at the start of a text. -/
def Blanks.ofText (letters : List Char) : Blanks :=
  ⟨letters.takeWhile Text.isBlank, fun _ mem => List.mem_takeWhile_imp mem⟩

theorem Blanks.ofText_append (letters : List Char) :
    (Blanks.ofText letters).letters ++ dropBlanks letters = letters :=
  List.takeWhile_append_dropWhile

theorem dropBlanks_append (blanks : Blanks) {rest : List Char} (ends : Ends Text.isBlank rest) :
    dropBlanks (blanks.letters ++ rest) = rest :=
  dropWhile_run blanks.blank ends

theorem dropBlanks_letters (blanks : Blanks) : dropBlanks blanks.letters = [] :=
  List.dropWhile_eq_nil_iff.mpr blanks.blank

/-- What is read as a comparison begins with a written one that means it. -/
theorem written_of_readComparison {letters rest : List Char} {comparison : Comparison}
    (read : readComparison letters = .ok (comparison, rest)) :
    ∃ written : WrittenComparison, written.comparison = comparison ∧
      letters = written.letters ++ rest ∧ Ends Char.isDigit rest := by
  unfold readComparison at read
  split at read
  · cases read
  · rename_i relation afterSign sign
    split at read
    · cases read
    · rename_i threshold after number
      cases read
      rcases readThreshold_eq_ok_iff.mp number with
        ⟨digits, nonempty, decimal, bounded, rfl, shown, ends⟩
      refine ⟨⟨.ofText letters, relation, .ofText afterSign, digits, nonempty, decimal, bounded⟩,
        rfl, ?_, ends⟩
      calc letters
          = (Blanks.ofText letters).letters ++ dropBlanks letters :=
            (Blanks.ofText_append letters).symm
        _ = (Blanks.ofText letters).letters ++ (relation.sign.toList ++
              ((Blanks.ofText afterSign).letters ++ dropBlanks afterSign)) := by
            rw [sign_of_readRelation sign, Blanks.ofText_append]
        _ = _ := by rw [shown, WrittenComparison.letters_append]

/-- A written comparison is read whole, unless a digit goes on after it. -/
theorem readComparison_written (written : WrittenComparison) {rest : List Char}
    (ends : Ends Char.isDigit rest) :
    readComparison (written.letters ++ rest) = .ok (written.comparison, rest) := by
  have number : readThreshold (written.digits ++ rest) =
      .ok (Int32.ofNat written.threshold, rest) :=
    readThreshold_eq_ok_iff.mpr
      ⟨written.digits, written.nonempty, written.decimal, written.bounded, rfl, rfl, ends⟩
  rw [WrittenComparison.letters_append, readComparison,
    dropBlanks_append written.before (ends_sign written.relation _),
    readRelation_sign _ (written.ends_inside rest)]
  simp only []
  rw [dropBlanks_append written.inside (written.ends_digits rest), number]
  rfl

/-! ## Further comparisons -/

theorem mark_of_connective {mark : Char} {connective : Connective}
    (read : connective? mark = some connective) : mark = connective.mark := by
  unfold connective? at read
  split at read <;> cases read <;> rfl

theorem splitConnective_mark (blanks : Blanks) (connective : Connective) (rest : List Char) :
    splitConnective? (blanks.letters ++ connective.mark :: rest) = some (connective, rest) := by
  rw [splitConnective?, dropBlanks_append blanks (ends_cons (Link.isBlank_mark connective) rest)]
  cases connective <;> rfl

theorem blanks_of_splitConnective {letters rest : List Char} {connective : Connective}
    (read : splitConnective? letters = some (connective, rest)) :
    letters = (Blanks.ofText letters).letters ++ connective.mark :: rest := by
  unfold splitConnective? at read
  split at read
  · cases read
  · rename_i mark others shown
    rcases Option.map_eq_some_iff.mp read with ⟨_, marked, same⟩
    cases same
    rw [← mark_of_connective marked, ← shown, Blanks.ofText_append]

/-- What is read as further comparisons is made of written links that mean them. -/
theorem links_of_readMore (letters : List Char) :
    ∃ links : List Link, (readMore letters).1 = links.map Link.joined ∧
      letters = links.flatMap Link.letters ++ (readMore letters).2 := by
  fun_induction readMore letters with
  | case1 letters missing => exact ⟨[], rfl, rfl⟩
  | case2 letters connective rest joint stop failed => exact ⟨[], rfl, rfl⟩
  | case3 letters connective rest joint comparison after found _ _ more last read inductionHypothesis =>
      rcases inductionHypothesis with ⟨links, meant, shown⟩
      have marked := blanks_of_splitConnective joint
      rcases written_of_readComparison found with ⟨next, rfl, began, _⟩
      rw [read] at meant shown
      refine ⟨⟨.ofText letters, connective, next⟩ :: links, ?_, ?_⟩
      · exact congrArg ((connective, next.comparison) :: ·) meant
      · calc letters
            = (Blanks.ofText letters).letters ++ connective.mark :: rest := marked
          _ = (Blanks.ofText letters).letters ++ connective.mark ::
                (next.letters ++ (links.flatMap Link.letters ++ last)) := by rw [began, shown]
          _ = _ := by rw [List.flatMap_cons, List.append_assoc, Link.letters_append]

/-! What one round of the loop does, in its three cases. -/

section Rounds

variable {letters rest : List Char} {connective : Connective}

theorem readMore_of_none (missing : splitConnective? letters = none) :
    readMore letters = ([], letters) := by
  rw [readMore]
  split
  · rfl
  · rename_i present
    cases missing.symm.trans present

theorem readMore_of_error {stop : Text.Wanted × List Char}
    (joint : splitConnective? letters = some (connective, rest))
    (failed : readComparison rest = .error stop) : readMore letters = ([], letters) := by
  rw [readMore]
  split
  · rfl
  · rename_i present
    cases joint.symm.trans present
    split
    · rfl
    · rename_i found
      cases failed.symm.trans found

theorem readMore_of_ok {comparison : Comparison} {after : List Char}
    (joint : splitConnective? letters = some (connective, rest))
    (found : readComparison rest = .ok (comparison, after)) :
    readMore letters = ((connective, comparison) :: (readMore after).1, (readMore after).2) := by
  rw [readMore]
  split
  · rename_i missing
    cases missing.symm.trans joint
  · rename_i present
    cases joint.symm.trans present
    split
    · rename_i failed
      cases failed.symm.trans found
    · rename_i read
      cases found.symm.trans read
      rfl

end Rounds

/-- Written links are read along with the text, whatever follows them but a digit. -/
theorem readMore_links (links : List Link) {rest : List Char} (ends : Ends Char.isDigit rest) :
    readMore (links.flatMap Link.letters ++ rest) =
      (links.map Link.joined ++ (readMore rest).1, (readMore rest).2) := by
  induction links with
  | nil => rfl
  | cons link others inductionHypothesis =>
      rw [List.flatMap_cons, List.append_assoc, Link.letters_append]
      have joint := splitConnective_mark link.before link.connective
        (link.next.letters ++ (others.flatMap Link.letters ++ rest))
      have found := readComparison_written link.next (Link.ends_links others ends)
      rw [readMore_of_ok joint found, inductionHypothesis]
      rfl

/-- They are read one and all when nothing but blanks follows them. -/
theorem readMore_written (links : List Link) (after : Blanks) :
    readMore (links.flatMap Link.letters ++ after.letters) =
      (links.map Link.joined, after.letters) := by
  have none : splitConnective? after.letters = none := by
    rw [splitConnective?, dropBlanks_letters]
  rw [readMore_links links after.ends, readMore_of_none none, List.append_nil]

/-! ## Whole texts -/

section Runs

variable {Item : Type} {related : Item -> Item -> Bool} {first second : Item} {rest : List Item}

theorem splitBy_cons_of_not (apart : related first second = false) :
    (first :: second :: rest).splitBy related = [first] :: (second :: rest).splitBy related :=
  List.splitBy_append_cons (l := [first]) rest (by rintro _ ⟨⟩; exact apart)

/-- An item that is related to the next one belongs to the run of the next one. -/
theorem splitBy_cons_of {run : List Item} {runs : List (List Item)}
    (together : related first second = true)
    (others : (second :: rest).splitBy related = run :: runs) :
    (first :: second :: rest).splitBy related = (first :: run) :: runs := by
  rcases List.splitBy_eq_iff.mp others with ⟨joined, nonempty, chains, ends⟩
  cases run with
  | nil => exact absurd List.mem_cons_self nonempty
  | cons head tail =>
      have heads : second = head := (List.cons.inj joined).1
      rw [List.isChain_cons] at ends
      refine List.splitBy_eq_iff.mpr ⟨congrArg (first :: ·) joined, ?_, ?_, ?_⟩
      · intro mem
        rcases List.mem_cons.mp mem with impossible | mem
        · cases impossible
        · exact nonempty (List.mem_cons_of_mem _ mem)
      · intro member mem
        rcases List.mem_cons.mp mem with rfl | mem
        · refine List.isChain_cons.mpr ⟨?_, chains _ List.mem_cons_self⟩
          rintro _ ⟨⟩
          exact heads ▸ together
        · exact chains member (List.mem_cons_of_mem _ mem)
      · refine List.isChain_cons.mpr ⟨fun next mem => ?_, ends.2⟩
        rcases ends.1 next mem with ⟨_, nonempty', last⟩
        exact ⟨List.cons_ne_nil _ _, nonempty', by simpa using last⟩

end Runs

section Groups

variable (connective : Connective) (first second : WrittenComparison)
  (rest : List (Connective × WrittenComparison))

theorem splitRuns_either : splitRuns ((connective, first) :: (.either, second) :: rest) =
    [first] :: splitRuns ((.either, second) :: rest) := by
  rw [splitRuns, splitBy_cons_of_not rfl]
  rfl

theorem splitRuns_both {run : List WrittenComparison} {runs : List (List WrittenComparison)}
    (others : splitRuns ((.both, second) :: rest) = run :: runs) :
    splitRuns ((connective, first) :: (.both, second) :: rest) = (first :: run) :: runs := by
  rcases List.map_eq_cons_iff.mp others with ⟨split, splits, found, rfl, rfl⟩
  rw [splitRuns, splitBy_cons_of rfl found]
  rfl

/-- The conjunctions that the reader collects are the runs. -/
theorem group_links (links : List Link) :
    (group first.comparison (links.map Link.joined)).1 ::
        (group first.comparison (links.map Link.joined)).2 =
      (splitRuns ((connective, first) :: links.map fun link => (link.connective, link.next))).map
        fun run => ⟨run.map WrittenComparison.comparison⟩ := by
  induction links generalizing connective first with
  | nil => rfl
  | cons link others inductionHypothesis =>
      have later := inductionHypothesis link.connective link.next
      cases joint : link.connective with
      | either =>
          rw [joint] at later
          rw [List.map_cons, List.map_cons, joint, splitRuns_either, List.map_cons, ← later]
          simp [group, Link.joined, joint]
      | both =>
          rw [joint] at later
          rcases List.map_eq_cons_iff.mp later.symm with ⟨run, runs, split, meant, others⟩
          rw [List.map_cons, List.map_cons, joint, splitRuns_both connective first _ _ split,
            List.map_cons, others]
          simp [group, Link.joined, joint, ← meant]

example : splitRuns [(.either, first), (.both, second), (.either, first)] =
    [[first, second], [first]] := rfl

end Groups

/-- A written condition is accepted and read as what it means. -/
theorem read_written (written : Written) : read written.text = .ok written.condition := by
  have letters : written.text.toList = written.first.letters ++
      (written.links.flatMap Link.letters ++ written.after.letters) := String.toList_ofList
  have ends := Link.ends_links written.links written.after.ends
  have groups := group_links .either written.first written.links
  rw [read, letters, readComparison_written written.first ends]
  simp only [readMore_written, dropBlanks_letters]
  rw [groups]
  rfl

/-- What is accepted has a written form. -/
theorem written_of_read {text : String} {condition : Condition}
    (accepted : read text = .ok condition) : ∃ written : Written, written.text = text := by
  unfold read at accepted
  split at accepted
  · cases accepted
  · rename_i comparison afterFirst found
    simp only [] at accepted
    split at accepted
    · rename_i blank
      rcases written_of_readComparison found with ⟨first, _, began, _⟩
      rcases links_of_readMore afterFirst with ⟨links, _, shown⟩
      have after := List.dropWhile_eq_nil_iff.mp blank
      refine ⟨⟨first, links, ⟨_, after⟩⟩, ?_⟩
      calc String.ofList (first.letters ++ (links.flatMap Link.letters ++ (readMore afterFirst).2))
          = String.ofList text.toList := by rw [← shown, ← began]
        _ = text := String.ofList_toList
    · cases accepted

theorem holds_relation_iff (relation : Relation) (value threshold : Int32) :
    relation.holds value threshold = true <-> Relates relation value.toInt threshold.toInt := by
  cases relation with
  | less => exact decide_eq_true_iff.trans Int32.lt_iff_toInt_lt
  | greater => exact decide_eq_true_iff.trans Int32.lt_iff_toInt_lt
  | atMost => exact decide_eq_true_iff.trans Int32.le_iff_toInt_le
  | atLeast => exact decide_eq_true_iff.trans Int32.le_iff_toInt_le
  | equal => exact beq_iff_eq.trans Int32.toInt_inj.symm
  | different => exact bne_iff_ne.trans Int32.toInt_inj.not.symm

/-- A threshold that fits a word is compared as the number that is written. -/
theorem holds_comparison_iff (written : WrittenComparison) (value : Int32) :
    written.comparison.holds value = true <-> written.Holds value.toInt := by
  have fits : written.threshold < 2 ^ 31 := Nat.lt_of_le_of_lt written.bounded (by decide)
  rw [Comparison.holds, holds_relation_iff, WrittenComparison.comparison,
    Int32.toInt_ofNat_of_lt fits]
  rfl

theorem holds_condition_iff (written : Written) (value : Int32) :
    written.condition.holds value = true <-> written.Holds value.toInt := by
  simp [Condition.holds_eq_true_iff, Conjunction.holds_eq_true_iff, Written.condition,
    Written.Holds, holds_comparison_iff]

/-- Reading accepts exactly the written conditions, each with what it means, and a text that
writes none is told apart from a condition that does not hold. -/
theorem accepts_exactly_written (text : String) :
    (∀ condition, read text = .ok condition <->
      ∃ written : Written, written.text = text ∧ written.condition = condition) ∧
    (∀ one other : Written, one.text = text -> other.text = text -> one = other) ∧
    (∀ value, holdsText? text value = none <-> ∀ written : Written, written.text ≠ text) ∧
    (∀ value, ∀ written : Written, written.text = text ->
      ∃ holds, holdsText? text value = some holds ∧
        (holds = true <-> written.Holds value.toInt)) := by
  refine ⟨?_, ?_, ?_, ?_⟩
  · intro condition
    constructor
    · intro accepted
      rcases written_of_read accepted with ⟨written, rfl⟩
      -- The written form is read as what it means, so this is what was read.
      exact ⟨written, rfl, Except.ok.inj ((read_written written).symm.trans accepted)⟩
    · rintro ⟨written, rfl, rfl⟩
      exact read_written written
  · rintro one other rfl same
    exact Written.text_injective same.symm
  · intro value
    constructor
    · rintro refused written rfl
      simp [holdsText?, read_written written] at refused
    · intro unwritten
      cases result : read text with
      | error => simp [holdsText?, result]
      | ok condition =>
          rcases written_of_read result with ⟨written, same⟩
          exact absurd same (unwritten written)
  · rintro value written rfl
    refine ⟨written.condition.holds value, ?_, holds_condition_iff written value⟩
    simp [holdsText?, read_written written]

end Condition
end ItemModels

import ItemModels.Proofs.Condition.Reading

namespace ItemModels
namespace Condition

/-!
# Texts joined by a connective

A connective stands nowhere in a written condition but between two comparisons.
A text with a connective in it is therefore accepted when the two sides of the
connective are, each by itself, and it does not matter which of its connectives
is looked at.  What the whole means is put together from what the sides mean: a
bar puts the conjunctions of both sides in a row, and `&` first joins the two
conjunctions that it stands between into one.
-/

/-- The connective as a text. -/
def Connective.text : Connective -> String
  | .both => "&"
  | .either => "|"

/-- The text is read as some condition. -/
def Accepted (text : String) : Prop :=
  ∃ condition, read text = .ok condition

/-! ## Where connectives stand -/

theorem Connective.toList_text (connective : Connective) :
    connective.text.toList = [connective.mark] := by
  cases connective <;> rfl

theorem Blanks.mark_not_mem (blanks : Blanks) (connective : Connective) :
    connective.mark ∉ blanks.letters := by
  intro inside
  have blank := blanks.blank _ inside
  rw [Link.isBlank_mark] at blank
  cases blank

theorem WrittenComparison.mark_not_mem (written : WrittenComparison) (connective : Connective) :
    connective.mark ∉ written.letters := by
  intro inside
  simp only [letters, List.mem_append] at inside
  rcases inside with before | sign | inside | digits
  · exact written.before.mark_not_mem connective before
  · revert sign
    cases written.relation <;> cases connective <;> decide
  · exact written.inside.mark_not_mem connective inside
  · have digit := written.decimal _ digits
    revert digit
    cases connective <;> decide

/-- A letter that does not occur in the first part of a text stands in the rest of it. -/
theorem split_after {first rest before after : List Char} {letter : Char}
    (absent : letter ∉ first) (same : first ++ rest = before ++ letter :: after) :
    ∃ between, before = first ++ between ∧ rest = between ++ letter :: after := by
  rcases List.append_eq_append_iff.mp same with ⟨between, split, remains⟩ | ⟨between, split, remains⟩
  · exact ⟨between, split, remains⟩
  · cases between with
    | nil => exact ⟨[], by simpa using split.symm, remains.symm⟩
    | cons head tail =>
        have here : letter = head := (List.cons.inj remains).1
        rw [split, here] at absent
        exact absurd (List.mem_append_right before List.mem_cons_self) absent

/-! ## Written conditions, joined and split -/

namespace Written

/-- The second condition is written after the first one and a connective. -/
def joined (left : Written) (connective : Connective) (right : Written) : Written :=
  ⟨left.first, left.links ++ ⟨left.after, connective, right.first⟩ :: right.links, right.after⟩

theorem letters_joined (left right : Written) (connective : Connective) :
    (left.joined connective right).letters =
      left.letters ++ connective.mark :: right.letters := by
  simp [joined, letters, Link.letters]

/-- At each connective a written condition is split into two.  The induction is on the links, with
the comparison before them left open: it becomes the first one of what the later links end. -/
theorem exists_split {first : WrittenComparison} {links : List Link} {blanks : Blanks}
    {connective : Connective} {before after : List Char}
    (shown : first.letters ++ (links.flatMap Link.letters ++ blanks.letters) =
      before ++ connective.mark :: after) :
    ∃ left right : Written, left.letters = before ∧ right.letters = after := by
  induction links generalizing first before with
  | nil =>
      rcases split_after (first.mark_not_mem connective) shown with ⟨between, _, remains⟩
      have inside : connective.mark ∈ blanks.letters := by
        rw [List.flatMap_nil, List.nil_append] at remains
        rw [remains]
        exact List.mem_append_right between List.mem_cons_self
      exact absurd inside (blanks.mark_not_mem connective)
  | cons link others inductionHypothesis =>
      rcases split_after (first.mark_not_mem connective) shown with ⟨between, rfl, remains⟩
      rw [List.flatMap_cons, List.append_assoc, Link.letters_append] at remains
      rcases split_after (link.before.mark_not_mem connective) remains with ⟨between, rfl, marks⟩
      cases between with
      | nil =>
          have tail := (List.cons.inj marks).2
          refine ⟨⟨first, [], link.before⟩, ⟨link.next, others, blanks⟩, ?_, tail⟩
          simp [letters]
      | cons mark between =>
          rcases List.cons.inj marks with ⟨rfl, tail⟩
          rcases inductionHypothesis tail with ⟨left, right, rfl, rightLetters⟩
          refine ⟨(⟨first, [], link.before⟩ : Written).joined link.connective left, right, ?_,
            rightLetters⟩
          rw [letters_joined]
          simp [letters]

end Written

/-! ## What joined conditions mean -/

section Groups

variable (first next : Comparison) (more later : List (Connective × Comparison))

/-- A bar closes the conjunctions before it. -/
theorem group_append_either :
    group first (more ++ (.either, next) :: later) =
      ((group first more).1, (group first more).2 ++ (group next later).1 :: (group next later).2) := by
  induction more generalizing first with
  | nil => rfl
  | cons link others inductionHypothesis =>
      rcases link with ⟨connective, second⟩
      have rest := inductionHypothesis second
      cases connective <;> simp [group, rest]

/-- The sign `&` makes one conjunction of the last one before it and the first one after it. -/
theorem group_append_both :
    ∃ front last, (group first more).1 :: (group first more).2 = front ++ [last] ∧
      (group first (more ++ (.both, next) :: later)).1 ::
          (group first (more ++ (.both, next) :: later)).2 =
        front ++ ⟨last.comparisons ++ (group next later).1.comparisons⟩ ::
          (group next later).2 := by
  induction more generalizing first with
  | nil => exact ⟨[], ⟨[first]⟩, rfl, rfl⟩
  | cons link others inductionHypothesis =>
      rcases link with ⟨connective, second⟩
      rcases inductionHypothesis second with ⟨front, last, before, joined⟩
      cases connective with
      | either =>
          refine ⟨⟨[first]⟩ :: front, last, ?_, ?_⟩
          · simp [group, before]
          · simp [group, joined]
      | both =>
          cases front with
          | nil =>
              rcases List.cons.inj before with ⟨only, none⟩
              rcases List.cons.inj joined with ⟨head, tail⟩
              refine ⟨[], ⟨first :: last.comparisons⟩, ?_, ?_⟩
              · simp [group, only, none]
              · simp [group, head, tail]
          | cons conjunction front =>
              rcases List.cons.inj before with ⟨only, none⟩
              rcases List.cons.inj joined with ⟨head, tail⟩
              refine ⟨⟨first :: conjunction.comparisons⟩ :: front, last, ?_, ?_⟩
              · simp [group, only, none]
              · simp [group, head, tail]

end Groups

namespace Written

variable (left right : Written)

theorem conjunctions_eq_group (written : Written) :
    written.condition.conjunctions =
      (group written.first.comparison (written.links.map Link.joined)).1 ::
        (group written.first.comparison (written.links.map Link.joined)).2 :=
  (group_links .either written.first written.links).symm

theorem joined_links (connective : Connective) :
    (left.joined connective right).links.map Link.joined =
      left.links.map Link.joined ++
        (connective, right.first.comparison) :: right.links.map Link.joined := by
  simp [joined, Link.joined]

theorem conjunctions_joined_either :
    (left.joined .either right).condition.conjunctions =
      left.condition.conjunctions ++ right.condition.conjunctions := by
  rw [conjunctions_eq_group, conjunctions_eq_group, conjunctions_eq_group, joined_links,
    group_append_either]
  rfl

theorem conjunctions_joined_both :
    ∃ front last first rest, left.condition.conjunctions = front ++ [last] ∧
      right.condition.conjunctions = first :: rest ∧
      (left.joined .both right).condition.conjunctions =
        front ++ ⟨last.comparisons ++ first.comparisons⟩ :: rest := by
  rw [conjunctions_eq_group, conjunctions_eq_group, conjunctions_eq_group, joined_links]
  rcases group_append_both left.first.comparison right.first.comparison
    (left.links.map Link.joined) (right.links.map Link.joined) with ⟨front, last, before, joined⟩
  exact ⟨front, last, _, _, before, rfl, joined⟩

theorem text_joined (connective : Connective) :
    (left.joined connective right).text = left.text ++ connective.text ++ right.text := by
  apply String.toList_injective
  simp [text, letters_joined, Connective.toList_text]

end Written

/-! ## Joined texts -/

theorem accepted_iff (text : String) : Accepted text <-> ∃ written : Written, written.text = text := by
  constructor
  · rintro ⟨condition, accepted⟩
    exact written_of_read accepted
  · rintro ⟨written, rfl⟩
    exact ⟨written.condition, read_written written⟩

theorem accepted_append_iff (connective : Connective) (one other : String) :
    Accepted (one ++ connective.text ++ other) <-> Accepted one ∧ Accepted other := by
  simp only [accepted_iff]
  constructor
  · rintro ⟨written, same⟩
    have letters : written.letters = one.toList ++ connective.mark :: other.toList := by
      have lists := congrArg String.toList same
      simpa [Written.text, Connective.toList_text] using lists
    rcases Written.exists_split letters with ⟨left, right, before, after⟩
    refine ⟨⟨left, ?_⟩, ⟨right, ?_⟩⟩
    · rw [Written.text, before, String.ofList_toList]
    · rw [Written.text, after, String.ofList_toList]
  · rintro ⟨⟨left, rfl⟩, ⟨right, rfl⟩⟩
    exact ⟨left.joined connective right, left.text_joined right connective⟩

/-- Blanks alone are no condition. -/
theorem not_accepted_blanks (blanks : Blanks) : ¬ Accepted (String.ofList blanks.letters) := by
  rintro ⟨condition, accepted⟩
  rw [read, String.toList_ofList, readComparison, dropBlanks_letters] at accepted
  cases accepted

/-- Nothing is accepted where a side of a connective is blank, be it the start of the text, its end
or what stands before another connective. -/
theorem not_accepted_dangling (connective next : Connective) (blanks : Blanks) (one other : String) :
    ¬ Accepted (one ++ connective.text ++ String.ofList blanks.letters) ∧
      ¬ Accepted (String.ofList blanks.letters ++ connective.text ++ one) ∧
      ¬ Accepted
        (one ++ connective.text ++ (String.ofList blanks.letters ++ next.text ++ other)) := by
  have blank := not_accepted_blanks blanks
  simp only [accepted_append_iff]
  exact ⟨fun sides => blank sides.2, fun sides => blank sides.1, fun sides => blank sides.2.1⟩

section Meaning

variable {one other : String} {left right : Condition}
  (first : read one = .ok left) (second : read other = .ok right)

include first second

theorem read_append_either :
    read (one ++ "|" ++ other) = .ok ⟨left.conjunctions ++ right.conjunctions⟩ := by
  rcases written_of_read first with ⟨leftWritten, rfl⟩
  rcases written_of_read second with ⟨rightWritten, rfl⟩
  cases (read_written leftWritten).symm.trans first
  cases (read_written rightWritten).symm.trans second
  have joined := read_written (leftWritten.joined .either rightWritten)
  rw [Written.text_joined] at joined
  rw [← Written.conjunctions_joined_either]
  exact joined

theorem read_append_both :
    ∃ front last next rest, left.conjunctions = front ++ [last] ∧
      right.conjunctions = next :: rest ∧
      read (one ++ "&" ++ other) =
        .ok ⟨front ++ ⟨last.comparisons ++ next.comparisons⟩ :: rest⟩ := by
  rcases written_of_read first with ⟨leftWritten, rfl⟩
  rcases written_of_read second with ⟨rightWritten, rfl⟩
  cases (read_written leftWritten).symm.trans first
  cases (read_written rightWritten).symm.trans second
  have joined := read_written (leftWritten.joined .both rightWritten)
  rw [Written.text_joined] at joined
  rcases leftWritten.conjunctions_joined_both rightWritten with
    ⟨front, last, next, rest, leftMeans, rightMeans, means⟩
  refine ⟨front, last, next, rest, leftMeans, rightMeans, ?_⟩
  rw [← means]
  exact joined

theorem holdsText_append_either (value : Int32) :
    holdsText? (one ++ "|" ++ other) value = some (left.holds value || right.holds value) := by
  rw [holdsText?, read_append_either first second]
  simp [holds]

theorem holdsText_append_both {last next : Conjunction} (single : left.conjunctions = [last])
    (single' : right.conjunctions = [next]) (value : Int32) :
    holdsText? (one ++ "&" ++ other) value = some (left.holds value && right.holds value) := by
  rcases read_append_both first second with
    ⟨front, found, found', rest, leftMeans, rightMeans, joined⟩
  have ends : [] ++ [last] = front ++ [found] := single.symm.trans leftMeans
  rcases List.append_inj' ends rfl with ⟨rfl, only⟩
  cases only
  cases single'.symm.trans rightMeans
  rw [holdsText?, joined]
  simp [holds, Conjunction.holds, single, single']

end Meaning

/-- A text with a connective in it is accepted when both sides of it are.  At a bar the conjunctions
of the sides follow each other; at `&` the last one of the left side and the first one of the right
side become one.  So a bar holds when either side does, and `&` between single conjunctions when
both do.  A connective at an end of a text or next to another one is never accepted, even with blanks
beside it. -/
theorem reads_joined_texts (one other : String) :
    (Accepted (one ++ "|" ++ other) <-> Accepted one ∧ Accepted other) ∧
    (Accepted (one ++ "&" ++ other) <-> Accepted one ∧ Accepted other) ∧
    (∀ left right, read one = .ok left -> read other = .ok right ->
      read (one ++ "|" ++ other) = .ok ⟨left.conjunctions ++ right.conjunctions⟩ ∧
      (∃ front last next rest, left.conjunctions = front ++ [last] ∧
        right.conjunctions = next :: rest ∧
        read (one ++ "&" ++ other) =
          .ok ⟨front ++ ⟨last.comparisons ++ next.comparisons⟩ :: rest⟩) ∧
      ∀ value,
        holdsText? (one ++ "|" ++ other) value = some (left.holds value || right.holds value) ∧
        ∀ last next, left.conjunctions = [last] -> right.conjunctions = [next] ->
          holdsText? (one ++ "&" ++ other) value =
            some (left.holds value && right.holds value)) ∧
    ∀ (connective next : Connective) (blanks : Blanks),
      ¬ Accepted (one ++ connective.text ++ String.ofList blanks.letters) ∧
      ¬ Accepted (String.ofList blanks.letters ++ connective.text ++ one) ∧
      ¬ Accepted
        (one ++ connective.text ++ (String.ofList blanks.letters ++ next.text ++ other)) := by
  refine ⟨accepted_append_iff .either one other, accepted_append_iff .both one other, ?_, ?_⟩
  · intro left right first second
    refine ⟨read_append_either first second, read_append_both first second, fun value => ?_⟩
    refine ⟨holdsText_append_either first second value, fun last next single single' => ?_⟩
    exact holdsText_append_both first second single single' value
  · intro connective next blanks
    exact not_accepted_dangling connective next blanks one other

/-- Two ranges joined by `&` make three conjunctions, of which the middle one takes a comparison
from either side. -/
theorem reads_joined_ranges :
    read ("<3|>10 " ++ "&" ++ " <20|=64") =
      .ok ⟨[⟨[⟨.less, 3⟩]⟩, ⟨[⟨.greater, 10⟩, ⟨.less, 20⟩]⟩, ⟨[⟨.equal, 64⟩]⟩]⟩ ∧
    ¬ Accepted ("<3|>10 " ++ "&" ++ "") := by
  have spec := reads_joined_texts "<3|>10 " " <20|=64"
  have left : read "<3|>10 " = .ok ⟨[⟨[⟨.less, 3⟩]⟩, ⟨[⟨.greater, 10⟩]⟩]⟩ := by decide +kernel
  have right : read " <20|=64" = .ok ⟨[⟨[⟨.less, 20⟩]⟩, ⟨[⟨.equal, 64⟩]⟩]⟩ := by decide +kernel
  constructor
  · rcases (spec.2.2.1 _ _ left right).2.1 with ⟨front, last, next, rest, before, after, joined⟩
    have ends : [⟨[⟨.less, 3⟩]⟩] ++ [⟨[⟨.greater, 10⟩]⟩] = front ++ [last] := before
    rcases List.append_inj' ends rfl with ⟨rfl, only⟩
    cases only
    cases after
    exact joined
  · exact (spec.2.2.2 .both .both ⟨[], by simp⟩).1

end Condition
end ItemModels

import ItemModels.Proofs.Condition.Joining

namespace ItemModels
namespace Condition

/-!
# Where a refused text is reported

A text that is no condition is reported at one place.  If it begins with a
comparison, the place is the end of the longest start that is a condition, with
the blanks after it.  Otherwise it is the place where the first comparison breaks
off.

That no longer start is a condition does not follow from the way in which the
loop takes one comparison after another: it could have gone wrong early.  The
argument goes through written forms instead.  A start that is a condition has one,
and the reader of the whole text goes along with it to its end, unless a run of
digits goes on behind that end.  Only then is something else read, for the
threshold is another number, and it may even be too large.
-/

open Text (dropBlanks byteLength Misread Wanted)

/-- The place between the letters is inside a run of digits. -/
def InsideDigits (front back : List Char) : Prop :=
  (∃ digit ∈ front.getLast?, digit.isDigit = true) ∧ ∃ digit ∈ back.head?, digit.isDigit = true

/-- The letters begin with a comparison, of which the whole run of digits is the threshold. -/
def StartsWithComparison (letters : List Char) : Prop :=
  ∃ (first : WrittenComparison) (rest : List Char),
    letters = first.letters ++ rest ∧ Ends Char.isDigit rest

/-- No longer sign stands where the sign of the relation stands. -/
def LongestSign (relation : Relation) (rest : List Char) : Prop :=
  ∀ (other : Relation) (after : List Char),
    relation.sign.toList ++ rest = other.sign.toList ++ after ->
      other.sign.toList.length <= relation.sign.toList.length

/-- The first comparison breaks off between the letters, and this is what is missing. -/
inductive BreaksOff : List Char -> List Char -> Wanted -> Prop where
  | noSign (before : Blanks) (back : List Char) (ends : Ends Text.isBlank back)
      (unsigned : ∀ (relation : Relation) (rest : List Char), back ≠ relation.sign.toList ++ rest) :
      BreaksOff before.letters back .relation
  | noDigit (before : Blanks) (relation : Relation) (inside : Blanks) (back : List Char)
      (longest : LongestSign relation (inside.letters ++ back)) (ends : Ends Text.isBlank back)
      (undigited : Ends Char.isDigit back) :
      BreaksOff (before.letters ++ (relation.sign.toList ++ inside.letters)) back .threshold
  | tooLarge (before : Blanks) (relation : Relation) (inside : Blanks) (digits rest : List Char)
      (decimal : ∀ digit ∈ digits, digit.isDigit = true) (ends : Ends Char.isDigit rest)
      (large : greatestThreshold < Text.digitsValue digits) :
      BreaksOff (before.letters ++ (relation.sign.toList ++ inside.letters)) (digits ++ rest)
        .smallerThreshold

/-! ## Places as numbers of bytes -/

theorem byteLength_append (front back : List Char) :
    byteLength (front ++ back) = byteLength front + byteLength back := by
  have shifted (letters : List Char) (start : Nat) :
      letters.foldl (fun total letter => total + letter.utf8Size) start =
        start + byteLength letters := by
    induction letters generalizing start with
    | nil => rfl
    | cons letter rest inductionHypothesis =>
        rw [byteLength, List.foldl_cons, List.foldl_cons, inductionHypothesis,
          inductionHypothesis (0 + letter.utf8Size)]
        omega
  rw [byteLength, List.foldl_append, shifted]
  rfl

/-- A report that leaves some letters is about the place before them. -/
theorem offset_leaving {text : String} {front back : List Char} (wanted : Wanted)
    (split : text.toList = front ++ back) :
    (Misread.leaving text back wanted).offset = byteLength front := by
  rw [Misread.leaving, split, byteLength_append]
  exact Nat.add_sub_cancel _ _

/-! ## The first comparison -/

theorem startsWithComparison_iff (letters : List Char) :
    StartsWithComparison letters <-> ∃ found, readComparison letters = .ok found := by
  constructor
  · rintro ⟨first, rest, rfl, ends⟩
    exact ⟨_, readComparison_written first ends⟩
  · rintro ⟨⟨comparison, rest⟩, read⟩
    rcases written_of_readComparison read with ⟨written, _, shown, ends⟩
    exact ⟨written, rest, shown, ends⟩

theorem longestSign_of_readRelation {letters rest : List Char} {relation : Relation}
    (read : readRelation? letters = some (relation, rest)) : LongestSign relation rest := by
  intro other after same
  rw [← sign_of_readRelation read] at same
  subst same
  by_contra longer
  -- Only the signs with `=` are longer than another one, and these are tried first.
  revert read
  cases other <;> cases relation <;> simp_all [Relation.sign, readRelation?]

theorem ne_sign_of_readRelation {letters : List Char} (missing : readRelation? letters = none)
    (relation : Relation) (rest : List Char) : letters ≠ relation.sign.toList ++ rest := by
  unfold readRelation? at missing
  split at missing
  iterate 6 cases missing
  rename_i atMost atLeast different less greater equal
  cases relation with
  | less => exact less rest
  | greater => exact greater rest
  | atMost => exact atMost rest
  | atLeast => exact atLeast rest
  | equal => exact equal rest
  | different => exact different rest

theorem readThreshold_eq_error {letters back : List Char} {wanted : Wanted}
    (failed : readThreshold letters = .error (wanted, back)) :
    back = letters ∧
      (wanted = .threshold ∧ Ends Char.isDigit letters ∨
        wanted = .smallerThreshold ∧
          greatestThreshold < Text.digitsValue (letters.takeWhile Char.isDigit)) := by
  unfold readThreshold at failed
  simp only [] at failed
  split at failed
  · rename_i none
    cases failed
    have ends := ends_dropWhile Char.isDigit letters
    rw [List.isEmpty_iff] at none
    have whole := List.takeWhile_append_dropWhile (p := Char.isDigit) (l := letters)
    rw [none, List.nil_append] at whole
    rw [whole] at ends
    exact ⟨rfl, Or.inl ⟨rfl, ends⟩⟩
  · split at failed
    · rename_i large
      cases failed
      exact ⟨rfl, Or.inr ⟨rfl, large⟩⟩
    · cases failed

/-- What is missing where a comparison could not be read. -/
theorem breaksOff_of_readComparison {letters back : List Char} {wanted : Wanted}
    (failed : readComparison letters = .error (wanted, back)) :
    ∃ front, letters = front ++ back ∧ BreaksOff front back wanted := by
  unfold readComparison at failed
  split at failed
  · rename_i missing
    cases failed
    refine ⟨(Blanks.ofText letters).letters, (Blanks.ofText_append letters).symm, ?_⟩
    exact .noSign _ _ (ends_dropWhile _ _) (ne_sign_of_readRelation missing)
  · rename_i relation afterSign sign
    split at failed
    · rename_i stop number
      cases failed
      have shown : letters = ((Blanks.ofText letters).letters ++ (relation.sign.toList ++
          (Blanks.ofText afterSign).letters)) ++ dropBlanks afterSign := by
        rw [List.append_assoc, List.append_assoc, Blanks.ofText_append,
          ← sign_of_readRelation sign, Blanks.ofText_append]
      have longest := longestSign_of_readRelation sign
      rw [← Blanks.ofText_append afterSign] at longest
      rcases readThreshold_eq_error number with ⟨rfl, ⟨rfl, undigited⟩ | ⟨rfl, large⟩⟩
      · exact ⟨_, shown, .noDigit _ relation _ _ longest (ends_dropWhile _ _) undigited⟩
      · refine ⟨_, shown, ?_⟩
        have run := List.takeWhile_append_dropWhile (p := Char.isDigit) (l := dropBlanks afterSign)
        rw [← run]
        refine .tooLarge _ relation _ _ _ (fun _ mem => List.mem_takeWhile_imp mem)
          (ends_dropWhile _ _) large
    · cases failed

/-! ## The longest start -/

/-- What the loop leaves is left over from the first letter on that is not blank. -/
theorem dropBlanks_readMore_suffix (letters : List Char) :
    dropBlanks (readMore letters).2 <:+ dropBlanks letters := by
  rcases links_of_readMore letters with ⟨links, _, shown⟩
  cases links with
  | nil =>
      rw [List.flatMap_nil, List.nil_append] at shown
      exact ⟨[], congrArg dropBlanks shown.symm⟩
  | cons link others =>
      rw [List.flatMap_cons, List.append_assoc, Link.letters_append] at shown
      have marked : dropBlanks letters =
          link.connective.mark :: (link.next.letters ++
            (others.flatMap Link.letters ++ (readMore letters).2)) := by
        conv => lhs; rw [shown]
        exact dropBlanks_append link.before (ends_cons (Link.isBlank_mark _) _)
      rw [marked]
      apply (List.dropWhile_suffix _).trans
      rw [← List.cons_append, ← List.append_assoc]
      exact List.suffix_append _ _

namespace Written

/-- Without blanks at its end, a written condition ends in a digit. -/
theorem ends_in_digit {written : Written} (bare : written.after.letters = []) :
    ∃ digit ∈ written.letters.getLast?, digit.isDigit = true := by
  have comparison (next : WrittenComparison) (front : List Char) :
      ∃ digit ∈ (front ++ next.letters).getLast?, digit.isDigit = true := by
    have last := List.getLast?_eq_some_getLast next.nonempty
    refine ⟨next.digits.getLast next.nonempty, ?_, next.decimal _ (List.getLast_mem _)⟩
    simp [WrittenComparison.letters, List.getLast?_append, last]
  rw [letters, bare, List.append_nil]
  rcases List.eq_nil_or_concat written.links with none | ⟨front, link, links⟩
  · rw [none, List.flatMap_nil, List.append_nil]
    exact comparison written.first []
  · have last := comparison link.next
      (written.first.letters ++ (front.flatMap Link.letters ++
        (link.before.letters ++ [link.connective.mark])))
    rw [links, List.concat_eq_append, List.flatMap_append]
    simpa [Link.letters] using last

theorem ends_after {written : Written} {rest : List Char}
    (outside : ¬ InsideDigits written.letters rest) :
    Ends Char.isDigit (written.after.letters ++ rest) := by
  refine ends_append (fun letter mem => isDigit_of_isBlank (written.after.blank letter mem)) ?_
  intro bare letter first
  by_contra digit
  exact outside ⟨ends_in_digit bare, letter, first, by simpa using digit⟩

end Written

/-- A start that is a condition is read along with the whole text, so that no more than the rest is
left over. -/
theorem left_suffix_of_accepted {start rest : List Char} (accepted : Accepted (String.ofList start))
    (outside : ¬ InsideDigits start rest) :
    ∃ first after, readComparison (start ++ rest) = .ok (first, after) ∧
      dropBlanks (readMore after).2 <:+ rest := by
  rcases (accepted_iff _).mp accepted with ⟨written, same⟩
  have shown : written.letters = start := String.ofList_injective same
  subst shown
  have ends := Written.ends_after outside
  have split : written.letters ++ rest = written.first.letters ++
      (written.links.flatMap Link.letters ++ (written.after.letters ++ rest)) := by
    simp [Written.letters]
  refine ⟨written.first.comparison,
    written.links.flatMap Link.letters ++ (written.after.letters ++ rest), ?_, ?_⟩
  · rw [split]
    exact readComparison_written written.first (Link.ends_links written.links ends)
  · rw [readMore_links written.links ends]
    have blanks : dropBlanks (written.after.letters ++ rest) = dropBlanks rest :=
      List.dropWhile_append_of_pos written.after.blank
    have left := dropBlanks_readMore_suffix (written.after.letters ++ rest)
    rw [blanks] at left
    exact left.trans (List.dropWhile_suffix _)

/-- What is read before the letters that are left over is a condition. -/
theorem accepted_of_read {letters after : List Char} {first : Comparison}
    (read : readComparison letters = .ok (first, after)) :
    ∃ front, letters = front ++ dropBlanks (readMore after).2 ∧ Accepted (String.ofList front) := by
  rcases written_of_readComparison read with ⟨written, _, shown, _⟩
  rcases links_of_readMore after with ⟨links, _, rest⟩
  let whole : Written := ⟨written, links, Blanks.ofText (readMore after).2⟩
  refine ⟨whole.letters, ?_, (accepted_iff _).mpr ⟨whole, rfl⟩⟩
  calc letters
      = written.letters ++ (links.flatMap Link.letters ++ (readMore after).2) := by
        rw [← rest, ← shown]
    _ = _ := by
        conv => lhs; rw [← Blanks.ofText_append (readMore after).2]
        simp [whole, Written.letters]

/-- A start that leaves no less than another one is no longer than that. -/
theorem byteLength_le_of_suffix {front left start rest : List Char}
    (split : front ++ left = start ++ rest) (suffix : left <:+ rest) :
    byteLength start <= byteLength front := by
  rcases suffix with ⟨between, rfl⟩
  rw [← List.append_assoc] at split
  rw [List.append_cancel_right split, byteLength_append]
  exact Nat.le_add_right _ _

/-- A refused text that begins with a comparison is reported at a letter that is not blank.  The
letters before the place are a condition, and no longer start of the text is one, unless it ends
inside a run of digits.  A text that does not begin with a comparison is reported where the first
comparison breaks off, and then no start of the text is a condition, unless it ends inside a run of
digits. -/
theorem refused_after_longest_start (text : String) (misread : Misread)
    (refused : read text = .error misread) :
    (StartsWithComparison text.toList ->
      ∃ front letter back, text.toList = front ++ letter :: back ∧
        misread.offset = byteLength front ∧ Text.isBlank letter = false ∧
        Accepted (String.ofList front) ∧
        ∀ longer rest, text.toList = longer ++ rest -> misread.offset < byteLength longer ->
          Accepted (String.ofList longer) -> InsideDigits longer rest) ∧
    (¬ StartsWithComparison text.toList ->
      (∃ front back, text.toList = front ++ back ∧ misread.offset = byteLength front ∧
        BreaksOff front back misread.wanted) ∧
      ∀ start rest, text.toList = start ++ rest -> Accepted (String.ofList start) ->
        InsideDigits start rest) := by
  rw [startsWithComparison_iff]
  unfold read at refused
  split at refused
  · rename_i wanted rest failed
    cases refused
    constructor
    · rintro ⟨found, read⟩
      cases failed.symm.trans read
    · intro _
      rcases breaksOff_of_readComparison failed with ⟨front, split, breaks⟩
      refine ⟨⟨front, rest, split, offset_leaving wanted split, breaks⟩, ?_⟩
      intro start others whole accepted
      by_contra outside
      rcases left_suffix_of_accepted accepted outside with ⟨first, after, read, _⟩
      rw [← whole] at read
      cases failed.symm.trans read
  · rename_i first after read
    simp only [] at refused
    split at refused
    · cases refused
    · rename_i left nonempty
      cases refused
      refine ⟨fun _ => ?_, fun missing => absurd ⟨_, read⟩ missing⟩
      rcases accepted_of_read read with ⟨front, split, accepted⟩
      have place := offset_leaving .theEnd split
      rcases List.exists_cons_of_ne_nil nonempty with ⟨letter, back, cons⟩
      refine ⟨front, letter, back, by rw [← cons]; exact split, place, ?_, accepted, ?_⟩
      · exact ends_dropWhile Text.isBlank (readMore after).2 letter (by
          rw [← Text.dropBlanks, cons]; rfl)
      · intro longer rest whole beyond accepted
        by_contra outside
        rcases left_suffix_of_accepted accepted outside with ⟨first', after', read', suffix⟩
        rw [← whole] at read'
        cases read.symm.trans read'
        have shorter := byteLength_le_of_suffix (split.symm.trans whole) suffix
        rw [place] at beyond
        exact absurd shorter (Nat.not_le.mpr beyond)

/-- A threshold that is too large is left over with the bar before it, although some starts of its
digits would do.  A sign that is written in the wrong order lacks its threshold. -/
theorem refused_before_large_threshold :
    let text := " >=03 &<5|=2147483648"
    read text = .error ⟨text, 9, .theEnd⟩ ∧
      (∃ front letter back, text.toList = front ++ letter :: back ∧ 9 = byteLength front ∧
        Text.isBlank letter = false ∧ Accepted (String.ofList front) ∧
        ∀ longer rest, text.toList = longer ++ rest -> 9 < byteLength longer ->
          Accepted (String.ofList longer) -> InsideDigits longer rest) ∧
      read " =>5" = .error ⟨" =>5", 2, .threshold⟩ ∧
      ∃ front back, " =>5".toList = front ++ back ∧ 2 = byteLength front ∧
        BreaksOff front back .threshold := by
  intro text
  have refused : read text = .error ⟨text, 9, .theEnd⟩ := by decide +kernel
  have refused' : read " =>5" = .error ⟨" =>5", 2, .threshold⟩ := by decide +kernel
  have starts : StartsWithComparison text.toList :=
    (startsWithComparison_iff _).mpr ⟨(⟨.atLeast, 3⟩, " &<5|=2147483648".toList), by decide +kernel⟩
  have startless : ¬ StartsWithComparison " =>5".toList := by
    have failed : readComparison " =>5".toList = .error (.threshold, ['>', '5']) := by
      decide +kernel
    rw [startsWithComparison_iff, failed]
    rintro ⟨_, impossible⟩
    cases impossible
  exact ⟨refused, (refused_after_longest_start text _ refused).1 starts, refused',
    ((refused_after_longest_start " =>5" _ refused').2 startless).1⟩

end Condition
end ItemModels

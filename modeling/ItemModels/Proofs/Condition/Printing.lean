import ItemModels.Proofs.Condition.Reading

namespace ItemModels
namespace Condition

/-!
# Printed conditions

Every condition has a text form, also one that no text writes: a condition
without conjunctions prints as the empty text, a conjunction without comparisons
leaves its place between the bars empty, and a negative threshold prints with a
sign that the reader does not know.  Such a condition is not expressible.

A printed condition is a row of slots, each with a connective before it and a
comparison or nothing in it.  The reader fills in slot after slot.  Where it
meets one that it cannot read, the connective before that slot is left over, so
the text is refused and never taken for another condition.
-/

open Text (dropBlanks)

/-- The condition has a conjunction, no conjunction is empty, and no threshold is negative. -/
structure Expressible (condition : Condition) : Prop where
  stated : condition.conjunctions ≠ []
  filled : ∀ conjunction ∈ condition.conjunctions, conjunction.comparisons ≠ []
  nonnegative : ∀ conjunction ∈ condition.conjunctions,
    ∀ comparison ∈ conjunction.comparisons, 0 <= comparison.threshold.toInt

/-! ## Printed thresholds -/

theorem digitsValue_digitsOf (value : Nat) : Text.digitsValue (Text.digitsOf value) = value := by
  have read := Nat.ofDigitChars_ten_toDigits (n := value)
  rw [Nat.ofDigitChars_eq_foldl] at read
  exact read

theorem toNat_threshold_lt (threshold : Int32) : threshold.toInt.toNat < 2147483648 := by
  have below := threshold.toInt_lt
  omega

/-- A comparison as it is printed, when its threshold is not negative. -/
def writtenOf (comparison : Comparison) : WrittenComparison where
  before := ⟨[], by simp⟩
  relation := comparison.relation
  inside := ⟨[], by simp⟩
  digits := Text.digitsOf comparison.threshold.toInt.toNat
  nonempty := Nat.toDigits_ne_nil
  decimal := fun _ mem => Nat.isDigit_of_mem_toDigits (by decide) (by decide) mem
  bounded := by
    rw [digitsValue_digitsOf]
    exact Nat.le_of_lt_succ (toNat_threshold_lt comparison.threshold)

theorem toList_toText (comparison : Comparison) :
    comparison.toText.toList =
      comparison.relation.sign.toList ++ comparison.threshold.toInt.repr.toList :=
  String.toList_append

theorem letters_writtenOf {comparison : Comparison}
    (nonnegative : 0 <= comparison.threshold.toInt) :
    (writtenOf comparison).letters = comparison.toText.toList := by
  rw [toList_toText, Int.repr_eq_if, if_pos nonnegative, Nat.repr_eq_ofList_toDigits,
    String.toList_ofList]
  rfl

theorem comparison_writtenOf {comparison : Comparison}
    (nonnegative : 0 <= comparison.threshold.toInt) :
    (writtenOf comparison).comparison = comparison := by
  have threshold : Int32.ofNat (writtenOf comparison).threshold = comparison.threshold := by
    apply Int32.toInt_inj.mp
    rw [WrittenComparison.threshold, writtenOf, digitsValue_digitsOf,
      Int32.toInt_ofNat_of_lt (toNat_threshold_lt comparison.threshold)]
    exact Int.toNat_of_nonneg nonnegative
  rw [WrittenComparison.comparison, threshold]
  rfl

/-! ## Slots -/

/-- A place for a comparison, after a connective.  It is empty in a conjunction without
comparisons. -/
structure Slot where
  connective : Connective
  comparison : Option Comparison

namespace Slot

/-- What is printed in the slot. -/
def content (slot : Slot) : List Char :=
  match slot.comparison with
  | some comparison => comparison.toText.toList
  | none => []

theorem content_some (connective : Connective) (comparison : Comparison) :
    content ⟨connective, some comparison⟩ = comparison.toText.toList := rfl

theorem content_none (connective : Connective) : content ⟨connective, none⟩ = [] := rfl

def letters (slot : Slot) : List Char :=
  ' ' :: slot.connective.mark :: ' ' :: slot.content

/-- There is a comparison in the slot, and its threshold is not negative. -/
def Readable (slot : Slot) : Prop :=
  ∃ comparison, slot.comparison = some comparison ∧ 0 <= comparison.threshold.toInt

/-- A slot with a comparison in it. -/
def ofJoined (joined : Connective × Comparison) : Slot :=
  ⟨joined.1, some joined.2⟩

theorem ofJoined_injective : Function.Injective ofJoined := by
  rintro ⟨connective, comparison⟩ ⟨other, second⟩ same
  cases same
  rfl

end Slot

/-- The slots of a conjunction, the first of them after a bar. -/
def slotsOf (conjunction : Conjunction) : List Slot :=
  match conjunction.comparisons with
  | [] => [⟨.either, none⟩]
  | first :: rest => ⟨.either, some first⟩ :: rest.map fun next => ⟨.both, some next⟩

theorem intercalate_cons (separator first : List Char) (rest : List (List Char)) :
    separator.intercalate (first :: rest) = first ++ rest.flatMap (separator ++ ·) := by
  induction rest generalizing first with
  | nil => simp
  | cons second others inductionHypothesis =>
      rw [List.intercalate_cons_cons, inductionHypothesis, List.flatMap_cons]
      simp

/-- A bar and a printed conjunction are the printed slots of the conjunction. -/
theorem letters_slotsOf (conjunction : Conjunction) :
    (slotsOf conjunction).flatMap Slot.letters =
      " | ".toList ++ conjunction.toText.toList := by
  rw [Conjunction.toText, String.toList_intercalate]
  unfold slotsOf
  cases conjunction.comparisons with
  | nil => rfl
  | cons first rest =>
      rw [List.map_cons, List.map_cons, intercalate_cons, List.flatMap_cons, List.flatMap_map,
        List.flatMap_map, List.flatMap_map]
      rfl

theorem slotsOf_ne_nil (conjunction : Conjunction) : slotsOf conjunction ≠ [] := by
  unfold slotsOf
  split <;> exact List.cons_ne_nil _ _

/-- The slots of a condition. -/
def slots (condition : Condition) : List Slot :=
  condition.conjunctions.flatMap slotsOf

/-- A condition with a conjunction is printed as what is in its first slot and, after that, its
other slots. -/
theorem letters_of_slots {condition : Condition} (stated : condition.conjunctions ≠ []) :
    ∃ slot more, condition.slots = slot :: more ∧
      condition.toText.toList = slot.content ++ more.flatMap Slot.letters := by
  rcases List.exists_cons_of_ne_nil stated with ⟨first, others, conjunctions⟩
  -- With a bar before it, the text is that of the slots one and all.
  have whole : condition.slots.flatMap Slot.letters = " | ".toList ++ condition.toText.toList := by
    rw [slots, List.flatMap_assoc, toText, String.toList_intercalate, conjunctions, List.map_cons,
      List.map_cons, intercalate_cons, List.flatMap_cons, letters_slotsOf, List.append_assoc,
      List.flatMap_map, List.flatMap_map]
    simp only [letters_slotsOf]
  have nonempty : condition.slots ≠ [] := by
    rw [slots, conjunctions, List.flatMap_cons]
    exact List.append_ne_nil_of_left_ne_nil (slotsOf_ne_nil first) _
  rcases List.exists_cons_of_ne_nil nonempty with ⟨slot, more, split⟩
  refine ⟨slot, more, split, ?_⟩
  rw [split, List.flatMap_cons] at whole
  exact (List.cons.inj (List.cons.inj (List.cons.inj whole).2).2).2.symm

theorem readable_slotsOf_iff (conjunction : Conjunction) :
    (∀ slot ∈ slotsOf conjunction, slot.Readable) <->
      conjunction.comparisons ≠ [] ∧
        ∀ comparison ∈ conjunction.comparisons, 0 <= comparison.threshold.toInt := by
  unfold slotsOf
  cases conjunction.comparisons with
  | nil => simp [Slot.Readable]
  | cons first rest => simp [Slot.Readable]

theorem expressible_iff {condition : Condition} (stated : condition.conjunctions ≠ []) :
    condition.Expressible <-> ∀ slot ∈ condition.slots, slot.Readable := by
  have each : (∀ slot ∈ condition.slots, slot.Readable) <->
      ∀ conjunction ∈ condition.conjunctions, ∀ slot ∈ slotsOf conjunction, slot.Readable := by
    rw [slots]
    exact List.forall_mem_flatMap
  rw [each]
  simp only [readable_slotsOf_iff]
  constructor
  · rintro ⟨_, filled, nonnegative⟩ conjunction mem
    exact ⟨filled conjunction mem, nonnegative conjunction mem⟩
  · intro readable
    exact ⟨stated, fun conjunction mem => (readable conjunction mem).1,
      fun conjunction mem => (readable conjunction mem).2⟩

/-! ## Reading slots -/

/-- No digit stands where a slot begins or a text ends. -/
theorem ends_slots (slots : List Slot) : Ends Char.isDigit (slots.flatMap Slot.letters) := by
  cases slots with
  | nil => exact ends_nil _
  | cons slot rest => exact ends_cons (by decide) _

theorem readComparison_blank (letters : List Char) :
    readComparison (' ' :: letters) = readComparison letters := rfl

theorem splitConnective_slot (slot : Slot) (rest : List Char) :
    splitConnective? (slot.letters ++ rest) =
      some (slot.connective, ' ' :: (slot.content ++ rest)) :=
  splitConnective_mark ⟨[' '], by simp [Text.isBlank]⟩ slot.connective _

theorem readComparison_of_readable {comparison : Comparison} {rest : List Char}
    (nonnegative : 0 <= comparison.threshold.toInt) (ends : Ends Char.isDigit rest) :
    readComparison (comparison.toText.toList ++ rest) = .ok (comparison, rest) := by
  have read := readComparison_written (writtenOf comparison) ends
  rw [letters_writtenOf nonnegative, comparison_writtenOf nonnegative] at read
  exact read

/-- The comparison in a slot is read, with the blank before it. -/
theorem readComparison_slot {slot : Slot} {comparison : Comparison}
    (filled : slot.comparison = some comparison) (nonnegative : 0 <= comparison.threshold.toInt)
    (more : List Slot) :
    readComparison (' ' :: (slot.content ++ more.flatMap Slot.letters)) =
      .ok (comparison, more.flatMap Slot.letters) := by
  rw [readComparison_blank, Slot.content, filled]
  exact readComparison_of_readable nonnegative (ends_slots more)

/-- The reader takes the sign before a negative threshold for a missing one. -/
theorem readComparison_minus (relation : Relation) (rest : List Char) :
    ∃ stop, readComparison (relation.sign.toList ++ '-' :: rest) = .error stop := by
  have blanks : dropBlanks (relation.sign.toList ++ '-' :: rest) =
      relation.sign.toList ++ '-' :: rest :=
    dropBlanks_append ⟨[], by simp⟩ (ends_sign relation _)
  have sign : readRelation? (relation.sign.toList ++ '-' :: rest) = some (relation, '-' :: rest) :=
    readRelation_sign relation (ends_cons (by decide) rest)
  rw [readComparison, blanks, sign]
  exact ⟨_, rfl⟩

/-- A slot that is empty or has a negative threshold is not read as a comparison. -/
theorem readComparison_of_not_readable {slot : Slot} (unreadable : ¬ slot.Readable)
    (more : List Slot) :
    ∃ stop, readComparison (slot.content ++ more.flatMap Slot.letters) = .error stop := by
  rcases slot with ⟨connective, _ | comparison⟩
  · rw [Slot.content_none, List.nil_append]
    cases more with
    | nil => exact ⟨_, rfl⟩
    | cons next others =>
        rw [List.flatMap_cons, Slot.letters]
        cases next.connective <;> exact ⟨_, rfl⟩
  · have negative : ¬ 0 <= comparison.threshold.toInt :=
      fun nonnegative => unreadable ⟨comparison, rfl, nonnegative⟩
    rw [Slot.content_some, toList_toText, Int.repr_eq_if, if_neg negative, String.toList_append,
      List.append_assoc]
    exact readComparison_minus comparison.relation _

/-- Slots with readable comparisons are all read, and nothing is left. -/
theorem readMore_readable (slots : List Slot) (readable : ∀ slot ∈ slots, slot.Readable) :
    ∃ joined : List (Connective × Comparison), slots = joined.map Slot.ofJoined ∧
      readMore (slots.flatMap Slot.letters) = (joined, []) := by
  induction slots with
  | nil => exact ⟨[], rfl, readMore_of_none rfl⟩
  | cons slot rest inductionHypothesis =>
      rcases List.forall_mem_cons.mp readable with ⟨⟨comparison, filled, nonnegative⟩, others⟩
      rcases inductionHypothesis others with ⟨joined, same, read⟩
      have joint := splitConnective_slot slot (rest.flatMap Slot.letters)
      have found := readComparison_slot filled nonnegative rest
      refine ⟨(slot.connective, comparison) :: joined, ?_, ?_⟩
      · rw [List.map_cons, ← same, Slot.ofJoined, ← filled]
      · rw [List.flatMap_cons, readMore_of_ok joint found, read]

/-- Where some slot is not readable, a connective is left over. -/
theorem readMore_unreadable (slots : List Slot) (unreadable : ∃ slot ∈ slots, ¬ slot.Readable) :
    dropBlanks (readMore (slots.flatMap Slot.letters)).2 ≠ [] := by
  induction slots with
  | nil =>
      rcases unreadable with ⟨slot, mem, _⟩
      cases mem
  | cons slot rest inductionHypothesis =>
      have joint := splitConnective_slot slot (rest.flatMap Slot.letters)
      rw [List.flatMap_cons]
      by_cases readable : slot.Readable
      · have later : ∃ slot ∈ rest, ¬ slot.Readable := by
          rcases unreadable with ⟨other, mem, unreadable⟩
          rcases List.mem_cons.mp mem with rfl | mem
          · exact absurd readable unreadable
          · exact ⟨other, mem, unreadable⟩
        rcases readable with ⟨comparison, filled, nonnegative⟩
        rw [readMore_of_ok joint (readComparison_slot filled nonnegative rest)]
        exact inductionHypothesis later
      · rcases readComparison_of_not_readable readable rest with ⟨stop, failed⟩
        rw [readMore_of_error joint ((readComparison_blank _).trans failed)]
        have mark : dropBlanks (slot.letters ++ rest.flatMap Slot.letters) =
            slot.connective.mark :: ' ' :: (slot.content ++ rest.flatMap Slot.letters) :=
          dropBlanks_append ⟨[' '], by simp [Text.isBlank]⟩ (ends_cons (Link.isBlank_mark _) _)
        rw [mark]
        exact List.cons_ne_nil _ _

/-! ## Whole conditions -/

/-- The comparisons of a conjunction with the connectives before them. -/
def joinedOf (conjunction : Conjunction) : List (Connective × Comparison) :=
  match conjunction.comparisons with
  | [] => []
  | first :: rest => (.either, first) :: rest.map fun next => (.both, next)

theorem slotsOf_eq_map {conjunction : Conjunction} (filled : conjunction.comparisons ≠ []) :
    slotsOf conjunction = (joinedOf conjunction).map Slot.ofJoined := by
  unfold slotsOf joinedOf
  split
  · rename_i empty
    exact absurd empty filled
  · rw [List.map_cons, List.map_map]
    rfl

/-- The comparisons of conjunctions, none of which is empty, fall into the same conjunctions
again. -/
theorem group_conjunctions (others : List Conjunction) (first : Comparison)
    (rest : List Comparison)
    (filled : ∀ conjunction ∈ others, conjunction.comparisons ≠ []) :
    group first ((rest.map fun next => (.both, next)) ++ others.flatMap joinedOf) =
      (⟨first :: rest⟩, others) := by
  induction others generalizing first rest with
  | nil =>
      induction rest generalizing first with
      | nil => rfl
      | cons next rest inductionHypothesis =>
          rw [List.map_cons, List.cons_append, group, inductionHypothesis]
  | cons conjunction others inductionHypothesis =>
      rcases List.forall_mem_cons.mp filled with ⟨nonempty, later⟩
      induction rest generalizing first with
      | nil =>
          rcases conjunction with ⟨_ | ⟨start, tail⟩⟩
          · exact absurd rfl nonempty
          · rw [List.map_nil, List.nil_append, List.flatMap_cons, joinedOf, List.cons_append, group,
              inductionHypothesis start tail later]
      | cons next rest inner =>
          rw [List.map_cons, List.cons_append, group, inner]

/-- A condition that is expressible is read back from its text form. -/
theorem read_of_expressible {condition : Condition} (expressible : condition.Expressible) :
    read condition.toText = .ok condition := by
  rcases letters_of_slots expressible.stated with ⟨slot, more, slots, letters⟩
  have readable := (expressible_iff expressible.stated).mp expressible
  rw [slots] at readable
  rcases List.forall_mem_cons.mp readable with ⟨⟨comparison, filled, nonnegative⟩, others⟩
  rcases readMore_readable more others with ⟨joined, same, rest⟩
  have first := readComparison_slot filled nonnegative more
  rw [readComparison_blank, ← letters] at first
  have result : read condition.toText =
      .ok ⟨(group comparison joined).1 :: (group comparison joined).2⟩ := by
    rw [read, first]
    simp only [rest]
    rfl
  -- The comparisons that are read are those of the conjunctions, in their order.
  have meant : (slot.connective, comparison) :: joined = condition.conjunctions.flatMap joinedOf := by
    apply List.map_injective_iff.mpr Slot.ofJoined_injective
    rw [List.map_cons, ← same, Slot.ofJoined, ← filled, ← slots, Condition.slots, List.map_flatMap]
    exact List.flatMap_congr fun conjunction mem => slotsOf_eq_map (expressible.filled _ mem)
  rcases condition with ⟨_ | ⟨⟨_ | ⟨start, tail⟩⟩, conjunctions⟩⟩
  · exact absurd rfl expressible.stated
  · exact absurd rfl (expressible.filled _ List.mem_cons_self)
  · simp only [List.flatMap_cons, joinedOf, List.cons_append] at meant
    rcases List.cons.inj meant with ⟨head, rest⟩
    have filled := (List.forall_mem_cons.mp expressible.filled).2
    rw [result, rest, (Prod.mk.inj head).2, group_conjunctions conjunctions start tail filled]

/-- A condition that is not expressible has a text form, but it is refused. -/
theorem read_of_not_expressible {condition : Condition} (inexpressible : ¬ condition.Expressible) :
    ∃ misread, read condition.toText = .error misread := by
  by_cases stated : condition.conjunctions = []
  · rcases condition with ⟨_⟩
    cases stated
    exact ⟨_, rfl⟩
  rcases letters_of_slots stated with ⟨slot, more, slots, letters⟩
  rw [expressible_iff stated, slots, List.forall_mem_cons] at inexpressible
  by_cases readable : slot.Readable
  · have later : ∃ other ∈ more, ¬ other.Readable := by
      by_contra none
      apply inexpressible
      refine ⟨readable, fun other mem => ?_⟩
      by_contra unreadable
      exact none ⟨other, mem, unreadable⟩
    have left := readMore_unreadable more later
    rcases readable with ⟨comparison, filled, nonnegative⟩
    have first := readComparison_slot filled nonnegative more
    rw [readComparison_blank, ← letters] at first
    rw [read, first]
    -- By `left`, the rest of the text is not blank, and the last case of the reader remains.
    simp only
    exact ⟨_, rfl⟩
  · rcases readComparison_of_not_readable readable more with ⟨stop, failed⟩
    rw [read, letters, failed]
    exact ⟨_, rfl⟩

/-- What a text means is expressible. -/
theorem Written.expressible (written : Written) : written.condition.Expressible := by
  have runs : ∀ run ∈ written.runs, run ≠ [] := by
    intro run mem
    rcases List.mem_map.mp mem with ⟨joined, split, rfl⟩
    rw [ne_eq, List.map_eq_nil_iff]
    exact List.ne_nil_of_mem_splitBy split
  constructor
  · rw [condition, ne_eq, List.map_eq_nil_iff, Written.runs, splitRuns, List.map_eq_nil_iff]
    exact List.splitBy_ne_nil.mpr (List.cons_ne_nil _ _)
  · intro conjunction mem
    rcases List.mem_map.mp mem with ⟨run, listed, rfl⟩
    rw [ne_eq, List.map_eq_nil_iff]
    exact runs run listed
  · intro conjunction mem comparison stands
    rcases List.mem_map.mp mem with ⟨run, _, rfl⟩
    rcases List.mem_map.mp stands with ⟨written, _, rfl⟩
    have fits : written.threshold < 2 ^ 31 := Nat.lt_of_le_of_lt written.bounded (by decide)
    rw [WrittenComparison.comparison, Int32.toInt_ofNat_of_lt fits]
    exact Int.natCast_nonneg _

/-- A condition is read back from its text form if it has conjunctions, none of them empty, and no
negative threshold.  Otherwise its text form is refused.  What was read once is therefore read
again from its text form. -/
theorem reads_back_expressible (condition : Condition) :
    (condition.Expressible -> read condition.toText = .ok condition) ∧
    (¬ condition.Expressible -> ∃ misread, read condition.toText = .error misread) ∧
    ∀ text, read text = .ok condition -> read condition.toText = .ok condition := by
  refine ⟨read_of_expressible, read_of_not_expressible, fun text accepted => ?_⟩
  apply read_of_expressible
  rcases written_of_read accepted with ⟨written, rfl⟩
  rw [← Except.ok.inj ((read_written written).symm.trans accepted)]
  exact written.expressible

/-- The greatest threshold is read back, also after it was read with leading zeros, while a bar with
nothing after it is refused. -/
theorem reads_back_greatest :
    read (Condition.mk [⟨[⟨.atLeast, 3⟩, ⟨.less, 10⟩]⟩, ⟨[⟨.equal, 2147483647⟩]⟩]).toText =
        .ok ⟨[⟨[⟨.atLeast, 3⟩, ⟨.less, 10⟩]⟩, ⟨[⟨.equal, 2147483647⟩]⟩]⟩ ∧
      (∃ misread, read (Condition.mk [⟨[⟨.atLeast, 3⟩]⟩, ⟨[]⟩]).toText = .error misread) ∧
      read (Condition.mk [⟨[⟨.equal, 2147483647⟩]⟩]).toText =
        .ok ⟨[⟨[⟨.equal, 2147483647⟩]⟩]⟩ := by
  refine ⟨?_, ?_, ?_⟩
  · exact (reads_back_expressible _).1
      { stated := by decide, filled := by decide, nonnegative := by decide }
  · apply (reads_back_expressible _).2.1
    intro expressible
    exact expressible.filled ⟨[]⟩ (by decide) rfl
  · exact (reads_back_expressible _).2.2 "= 002147483647" (by decide +kernel)

end Condition
end ItemModels

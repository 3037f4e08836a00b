import ItemModels.Proofs.Json.Literal
import ItemModels.Proofs.Override.SingleTest

namespace ItemModels

/-!
# Tests that state a bare number

The size of a stack, its damage, the day and the time of day can be asked to be
at least a number.  The number stands in a file as a literal of any length and is
read as a signed word before it is compared.  For literals within the range of
signed words, and for those below it, the comparison is that of whole numbers.
A literal in the upper half of the unsigned words is read as a negative bound, so
it is met where it should not be.  A literal beyond all words is read as the
greatest signed word, which only a time of day can reach.
-/

/-- The kinds of tests that take a bare number as a lower bound. -/
inductive TestKind.TakesBound : TestKind -> Prop where
  | stacking : TakesBound .stacking
  | damage : TakesBound .damage
  | day : TakesBound .day
  | time : TakesBound .time

/-- The number of the item that a lower bound is about. -/
def Item.figure? (item : Item) : TestKind -> Option Int64
  | .stacking => some item.count.toInt64
  | .damage => some item.damage.toInt64
  | .day => item.clock.map Clock.day
  | .time => item.clock.map Clock.timeOfDay
  | _ => none

/-- The bound is read as a word that the figure reaches, and the figure does not reach the bound. -/
def JsonNumber.Missed (bound figure : Int) : Prop :=
  2 ^ 63 <= bound ∧ bound < 2 ^ 64 ∧ bound - 2 ^ 64 <= figure ∨
    2 ^ 64 <= bound ∧ figure = 2 ^ 63 - 1

theorem JsonNumber.wordOf_le_iff {bound figure : Int} (least : -2 ^ 63 <= figure)
    (most : figure < 2 ^ 63) :
    wordOf bound <= figure <-> bound <= figure ∨ Missed bound figure := by
  unfold wordOf Missed
  omega

/-! ## The figures of an item -/

theorem Item.passes_number_iff (item : Item) (number : JsonNumber) {kind : TestKind}
    (bounded : kind.TakesBound) :
    item.Passes (.number number) kind <->
      ∃ figure, item.figure? kind = some figure ∧ number.reading <= figure.toInt := by
  rw [← JsonNumber.toInt_toInt64]
  simp only [← Int64.le_iff_toInt_le]
  cases bounded with
  | stacking => simp [Passes, figure?, Quantity.ofJson, Quantity.holds]
  | damage => simp [Passes, figure?, Quantity.ofJson, Quantity.holds]
  | day =>
      cases clock : item.clock <;> simp [Passes, figure?, Clock.onOrAfterDay, clock]
  | time =>
      cases clock : item.clock <;> simp [Passes, figure?, Clock.onOrAfterTime, clock]

/-- Division drops the fraction, which is rounding down from the start of the world on. -/
theorem Clock.toInt_day {clock : Clock} (started : 0 <= clock.totalTicks.toInt) :
    clock.day.toInt = clock.totalTicks.toInt / 24000 + 1 := by
  have most := clock.totalTicks.toInt_lt
  have ticks : ticksPerDay.toInt = 24000 := rfl
  have one : (1 : Int64).toInt = 1 := rfl
  have quotient : (clock.totalTicks / ticksPerDay).toInt = clock.totalTicks.toInt / 24000 := by
    rw [Int64.toInt_div_of_ne_right _ _ (by decide), ticks, Int.tdiv_eq_ediv_of_nonneg started]
  rw [day, Int64.toInt_add, quotient, one, Int.bmod_def]
  omega

/-! ## Rules for a bare number -/

namespace Rule

/-- A whole literal as the value of a test for a figure of the item makes a rule.  The rule applies
when the figure is at least the number of the literal, and also when it misses that number but the
literal is read as a word that it reaches.  For the day, the first is that all days before have
passed, and the second is that the literal is in the upper half of the unsigned words. -/
theorem applies_from_literal_on {literal : JsonNumber.WholeLiteral} {number : JsonNumber}
    (kept : JsonNumber.ofLiteral? literal.letters = some number)
    {namespaces : Namespaces} {key : String} {kind : TestKind} (bounded : kind.TakesBound)
    (states : namespaces.role (Location.ofText key) = .test)
    (named : Text.sameLetters kind.title (Location.ofText key).path = true) (model : String) :
    ∃ rule, (compile model (.ofMembers [(key, .number number)]) namespaces).result = .ok rule ∧
      ∀ source item, source.Shows item ->
        (rule.applies source = true <->
          ∃ figure, item.figure? kind = some figure ∧
            (literal.value <= figure.toInt ∨ JsonNumber.Missed literal.value figure.toInt)) ∧
        ∀ clock, kind = .day -> item.clock = some clock -> 0 <= clock.totalTicks.toInt ->
          (rule.applies source = true <->
            (literal.value - 1) * 24000 <= clock.totalTicks.toInt ∨
              2 ^ 63 <= literal.value ∧ literal.value < 2 ^ 64) := by
  refine ⟨_, result_compile_test model states rfl, fun source item shows => ?_⟩
  let entry : Location × Json := (Location.ofText key, .number number)
  have applies : Rule.applies ⟨Location.ofText model, some (entryTest entry), []⟩ source = true <->
      ∃ figure, item.figure? kind = some figure ∧
        (literal.value <= figure.toInt ∨ JsonNumber.Missed literal.value figure.toInt) := by
    have test : entryTest entry = Test.ofJson kind (.number number) := by
      have found := (TestKind.ofPath_eq_some_iff _ _).mpr named
      simp only [entryTest, compileTest, entry, found]
    rw [applies_eq_true_iff]
    simp only [Option.some.injEq, forall_eq', test, Test.holds_ofJson_iff shows, List.not_mem_nil,
      false_implies, implies_true, and_true]
    rw [item.passes_number_iff number bounded, JsonNumber.reading_of_literal kept]
    refine exists_congr fun figure => and_congr_right fun _ => ?_
    exact JsonNumber.wordOf_le_iff figure.le_toInt figure.toInt_lt
  refine ⟨applies, ?_⟩
  rintro clock rfl world started
  have day := Clock.toInt_day started
  have most := clock.totalTicks.toInt_lt
  rw [applies]
  simp only [Item.figure?, world, Option.map_some, Option.some.injEq, exists_eq_left', day,
    JsonNumber.Missed]
  omega

/-- From the third day on means from the tick after two whole days on. -/
theorem applies_from_third_day_on :
    let after (ticks : Int64) := { Snapshot.new "clock" with clock := some ⟨0, ticks⟩ }
    JsonNumber.ofLiteral? ['3'] = some (.whole 3) ∧
      ∃ rule, (compile "item/clock" (.ofMembers [("IOS:day", .number (.whole 3))]) .standard).result =
          .ok rule ∧
        rule.applies (after 48000).attributes = true ∧
        rule.applies (after 47999).attributes = false := by
  intro after
  let three : JsonNumber.WholeLiteral :=
    ⟨false, ['3'], List.cons_ne_nil _ _, List.forall_mem_singleton.mpr rfl⟩
  have kept : JsonNumber.ofLiteral? three.letters = some (.whole 3) := by decide +kernel
  have states : Namespaces.standard.role (Location.ofText "IOS:day") = .test := by decide +kernel
  have named : Text.sameLetters TestKind.day.title (Location.ofText "IOS:day").path = true := by
    decide +kernel
  rcases applies_from_literal_on kept .day states named "item/clock" with ⟨rule, made, spec⟩
  have dated : ∀ ticks : Int64, 0 <= ticks.toInt ->
      (rule.applies (after ticks).attributes = true <-> 48000 <= ticks.toInt) := by
    intro ticks started
    have day : rule.applies (after ticks).attributes = true <->
        (three.value - 1) * 24000 <= ticks.toInt ∨ 2 ^ 63 <= three.value ∧ three.value < 2 ^ 64 :=
      (spec _ _ (after ticks).attributes_shows).2 ⟨0, ticks⟩ rfl rfl started
    have value : three.value = 3 := by decide
    rw [day, value]
    omega
  refine ⟨kept, rule, made, (dated 48000 (by decide)).mpr (by decide), ?_⟩
  rw [Bool.eq_false_iff, Ne, dated 47999 (by decide)]
  decide

/-- A single item is not a pile of two, but it is one of `18446744073709551615`. -/
theorem applies_to_one_as_pile :
    let single := Snapshot.new "apple"
    let asPile (literal : String) : Option Bool := do
      let number <- JsonNumber.ofLiteral? literal.toList
      let requirements := Requirements.ofMembers [("ios:stacking", .number number)]
      let rule <- (compile "item/pile" requirements .standard).result.toOption
      some (rule.applies single.attributes)
    single.count = 1 ∧ asPile "2" = some false ∧ asPile "18446744073709551615" = some true := by
  decide +kernel

end Rule
end ItemModels

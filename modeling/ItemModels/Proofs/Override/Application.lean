import ItemModels.Override.Rule

namespace ItemModels

/-!
# When a rule applies

A rule tries its test and then its thresholds, and stops at the first that does
not hold or whose reading fails.  Whether it applies does not depend on that
order: it applies when its test and all of its thresholds are read and hold.
Nothing here assumes that readings succeed.
-/

namespace Reading

theorem succeeded_eq_true_iff (reading : Reading Bool) :
    reading.succeeded = true <-> reading = .value true := by
  cases reading <;> simp [succeeded]

/-- A check that goes on to a second one only if it holds succeeds when both do. -/
theorem bind_ite_eq_true_iff (first second : Reading Bool) :
    (first.bind fun holds => if holds then second else .value false) = .value true <->
      first = .value true ∧ second = .value true := by
  cases first with
  | failed => simp
  | value holds => cases holds <;> simp

/-- A check of all items succeeds when the check of each item does. -/
theorem forAll_eq_true_iff {Item : Type} (check : Item -> Reading Bool) (items : List Item) :
    forAll check items = .value true <-> ∀ item ∈ items, check item = .value true := by
  induction items with
  | nil => simp [forAll]
  | cons item rest inductionHypothesis =>
      rw [forAll, bind_ite_eq_true_iff, List.forall_mem_cons, inductionHypothesis]

end Reading

namespace Rule

theorem check_eq_true_iff (rule : Rule) (source : Attributes) :
    rule.check source = .value true <->
      (∀ test, rule.test = some test -> test.holds source = .value true) ∧
        rule.thresholdsReached source = .value true := by
  unfold check
  cases rule.test with
  | none => simp
  | some test => simp only [Reading.bind_ite_eq_true_iff, Option.some.injEq, forall_eq']

/-- A rule applies when its test, if it has one, and each of its thresholds are read and hold. -/
theorem applies_eq_true_iff (rule : Rule) (source : Attributes) :
    rule.applies source = true <->
      (∀ test, rule.test = some test -> test.holds source = .value true) ∧
        ∀ threshold ∈ rule.thresholds, thresholdReached source threshold = .value true := by
  rw [applies, Reading.succeeded_eq_true_iff, check_eq_true_iff, thresholdsReached,
    Reading.forAll_eq_true_iff]

end Rule
end ItemModels

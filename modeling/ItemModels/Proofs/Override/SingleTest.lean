import ItemModels.Proofs.Override.Interpretation

namespace ItemModels

/-!
# Rules with one test

An override that states one test and nothing else makes a rule, whatever the
value of the test is.  The rule applies when the test that the value makes is
read and holds.  A null value is no exception: the rule then has the test that no
item passes, and the test that null would make is malformed or asks a tag to
satisfy null, so that no item passes it either.
-/

namespace Test

/-- No item passes a test that is made from null. -/
theorem holds_ofJson_null (kind : TestKind) (source : Attributes) :
    (Test.ofJson kind .null).holds source ≠ .value true := by
  cases kind with
  | stacking =>
      cases count : source.count <;> cases most : source.maxCount <;>
        simp [Test.ofJson, holds, bind, count, most, Quantity.ofJson, Quantity.holds]
  | damage =>
      cases damage : source.damage <;> cases most : source.maxDamage <;>
        simp [Test.ofJson, holds, bind, damage, most, Quantity.ofJson, Quantity.holds]
  | nbt =>
      cases tree : source.tree <;>
        simp [Test.ofJson, holds, bind, tree, Tag.satisfies, Tag.check, Verdict.fail]
  | _ =>
      intro impossible
      cases impossible

end Test

namespace Rule

/-- The rule that a single entry makes when its key states a test. -/
theorem result_compile_single {namespaces : Namespaces} {key : String} (model : String)
    (value : Json) (states : namespaces.role (Location.ofText key) = .test) :
    (compile model (.ofMembers [(key, value)]) namespaces).result =
      .ok ⟨Location.ofText model,
        some (if value.isNull then .never else entryTest (Location.ofText key, value)), []⟩ := by
  have entries : (Requirements.ofMembers [(key, value)]).entries = [(Location.ofText key, value)] :=
    rfl
  have valid : (Requirements.ofMembers [(key, value)]).entries.find? namespaces.invalid = none := by
    simp [entries, Namespaces.invalid, states]
  rw [result_compile_of_valid model valid, entries]
  cases null : value.isNull <;>
    simp [ofEntries, Draft.extend, Draft.start, Draft.finalTest, Namespaces.decidingEntry?,
      Namespaces.statesTest, Namespaces.threshold?, states, null]

theorem result_compile_test {namespaces : Namespaces} {key : String} {value : Json} (model : String)
    (states : namespaces.role (Location.ofText key) = .test) (present : value.isNull = false) :
    (compile model (.ofMembers [(key, value)]) namespaces).result =
      .ok ⟨Location.ofText model, some (entryTest (Location.ofText key, value)), []⟩ := by
  rw [result_compile_single model value states, present, if_neg Bool.false_ne_true]

theorem entryTest_of_named {key : String} {kind : TestKind}
    (named : Text.sameLetters kind.title (Location.ofText key).path = true) (value : Json) :
    entryTest (Location.ofText key, value) = Test.ofJson kind value := by
  have found := (TestKind.ofPath_eq_some_iff _ _).mpr named
  simp only [entryTest, compileTest, found]

theorem applies_single_iff (model : Location) (test : Test) (source : Attributes) :
    Rule.applies ⟨model, some test, []⟩ source = true <-> test.holds source = .value true := by
  rw [applies_eq_true_iff]
  simp

/-- A single entry whose key names a kind of test makes a rule that asks what the value asks. -/
theorem exists_rule_of_test {namespaces : Namespaces} {key : String} {kind : TestKind}
    (states : namespaces.role (Location.ofText key) = .test)
    (named : Text.sameLetters kind.title (Location.ofText key).path = true) (model : String)
    (value : Json) :
    ∃ rule, (compile model (.ofMembers [(key, value)]) namespaces).result = .ok rule ∧
      ∀ source, rule.applies source = true <-> (Test.ofJson kind value).holds source = .value true := by
  refine ⟨_, result_compile_single model value states, fun source => ?_⟩
  rw [applies_single_iff, entryTest_of_named named]
  cases value with
  | null =>
      constructor
      · intro impossible
        cases impossible
      · exact fun impossible => absurd impossible (Test.holds_ofJson_null kind source)
  | _ => exact Iff.rfl

end Rule
end ItemModels

import ItemModels.Override.Rule

namespace ItemModels

/-!
# What the entries of an override make of a rule

Making a rule walks the entries once and carries a draft along.  The walk has
three kinds of steps, and it ends early at a threshold without a number.  Here
the whole walk is given in closed form: the test comes from the first entry
that states one with a value other than null, the thresholds come from the
entries outside the namespaces of tests in their order, and the fault, if there
is one, names the first of these that has no number.

The step lemma `result_compileEntry` says all that one entry can do.  The run
lemma `result_compileEntries` follows from it alone, because a draft that has
taken in some entries and then some more has taken in all of them.
-/

namespace Namespaces

/-- The entry that decides the test of a rule: the first whose key states a test and whose
value is not null. -/
def decidingEntry? (namespaces : Namespaces) (entries : List (Location × Json)) :
    Option (Location × Json) :=
  entries.find? fun entry => namespaces.statesTest entry.1 && !entry.2.isNull

/-- The threshold that an entry outside the namespaces of tests states. -/
def threshold? (namespaces : Namespaces) (entry : Location × Json) : Option Threshold :=
  match namespaces.role entry.1 with
  | .threshold => (Rule.least? entry.2).map fun least => { key := entry.1, least }
  | _ => none

/-- The entry is outside the namespaces of tests, and its value is no number. -/
def invalid (namespaces : Namespaces) (entry : Location × Json) : Bool :=
  namespaces.role entry.1 == .threshold && (Rule.least? entry.2).isNone

end Namespaces

namespace Rule

/-- The test that an entry makes. -/
def entryTest (entry : Location × Json) : Test := (compileTest entry.1 entry.2).1

namespace Draft

/-- The draft with some entries taken in.  A test that it has already stays. -/
def extend (draft : Draft) (namespaces : Namespaces) (entries : List (Location × Json)) : Draft :=
  { test := draft.test.or ((namespaces.decidingEntry? entries).map entryTest)
    hasTestKey := draft.hasTestKey || entries.any fun entry => namespaces.statesTest entry.1
    thresholds := draft.thresholds ++ entries.filterMap namespaces.threshold? }

theorem extend_nil (draft : Draft) (namespaces : Namespaces) : draft.extend namespaces [] = draft := by
  simp [extend, Namespaces.decidingEntry?]

theorem extend_cons (draft : Draft) (namespaces : Namespaces) (entry : Location × Json)
    (rest : List (Location × Json)) :
    draft.extend namespaces (entry :: rest) =
      (draft.extend namespaces [entry]).extend namespaces rest := by
  have split : entry :: rest = [entry] ++ rest := rfl
  rw [split]
  simp only [extend, Namespaces.decidingEntry?, List.find?_append, Option.map_or, Option.or_assoc,
    List.any_append, Bool.or_assoc, List.filterMap_append, List.append_assoc]

end Draft

/-- One entry either is invalid and ends the work, or is taken in. -/
theorem result_compileEntry (namespaces : Namespaces) (model : Location) (draft : Draft)
    (key : Location) (value : Json) :
    (compileEntry namespaces model draft key value).result =
      if namespaces.invalid (key, value) then .error { model, key }
      else .ok (draft.extend namespaces [(key, value)]) := by
  cases role : namespaces.role key with
  | test =>
      have states : namespaces.statesTest key = true := by simp [Namespaces.statesTest, role]
      have valid : namespaces.invalid (key, value) = false := by simp [Namespaces.invalid, role]
      rw [valid]
      cases found : draft.test <;> cases null : value.isNull <;>
        simp [compileEntry, role, found, null, Logged.ok, Draft.extend, Namespaces.decidingEntry?,
          Namespaces.threshold?, states, entryTest]
  | dropped =>
      have states : namespaces.statesTest key = false := by simp [Namespaces.statesTest, role]
      simp [compileEntry, role, Logged.ok, Draft.extend, Namespaces.decidingEntry?,
        Namespaces.threshold?, Namespaces.invalid, states]
  | threshold =>
      have states : namespaces.statesTest key = false := by simp [Namespaces.statesTest, role]
      cases least : least? value <;>
        simp [compileEntry, role, least, Logged.ok, Draft.extend, Namespaces.decidingEntry?,
          Namespaces.threshold?, Namespaces.invalid, states]

/-- A walk over entries ends with the fault of the first invalid one, or takes all of them
in. -/
theorem result_compileEntries (namespaces : Namespaces) (model : Location) (draft : Draft)
    (entries : List (Location × Json)) :
    (compileEntries namespaces model draft entries).result =
      match entries.find? namespaces.invalid with
      | some entry => .error { model, key := entry.1 }
      | none => .ok (draft.extend namespaces entries) := by
  induction entries generalizing draft with
  | nil => simp [compileEntries, Logged.ok, Draft.extend_nil]
  | cons entry rest inductionHypothesis =>
      rcases entry with ⟨key, value⟩
      have step := result_compileEntry namespaces model draft key value
      rw [List.find?_cons]
      cases invalid : namespaces.invalid (key, value) with
      | true =>
          rw [invalid] at step
          simp only [compileEntries, Logged.bind, step, if_true]
      | false =>
          rw [invalid] at step
          simp only [compileEntries, Logged.bind, step, Bool.false_eq_true, if_false,
            inductionHypothesis]
          rw [← Draft.extend_cons]

/-- The rule that entries make when none of them is invalid. -/
def ofEntries (namespaces : Namespaces) (model : Location) (entries : List (Location × Json)) :
    Rule :=
  let draft := Draft.start.extend namespaces entries
  { model, test := draft.finalTest, thresholds := draft.thresholds }

/-- Making a rule ends with the fault of the first invalid entry, or gives the rule that the
entries make. -/
theorem result_compile (model : String) (requirements : Requirements) (namespaces : Namespaces) :
    (compile model requirements namespaces).result =
      match requirements.entries.find? namespaces.invalid with
      | some entry => .error { model := Location.ofText model, key := entry.1 }
      | none => .ok (ofEntries namespaces (Location.ofText model) requirements.entries) := by
  have run := result_compileEntries namespaces (Location.ofText model) .start requirements.entries
  cases found : requirements.entries.find? namespaces.invalid with
  | some entry =>
      rw [found] at run
      simp only [compile, Logged.bind, run]
  | none =>
      rw [found] at run
      simp only [compile, Logged.bind, run, Logged.ok, ofEntries]

theorem result_compile_of_valid {requirements : Requirements} {namespaces : Namespaces}
    (model : String) (valid : requirements.entries.find? namespaces.invalid = none) :
    (compile model requirements namespaces).result =
      .ok (ofEntries namespaces (Location.ofText model) requirements.entries) := by
  rw [result_compile, valid]

end Rule
end ItemModels

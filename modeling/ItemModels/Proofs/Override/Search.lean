import ItemModels.Override.Overrides
import ItemModels.Proofs.Override.Application

namespace ItemModels

/-!
# The plain and the detailed search

The plain search tries a rule as a whole: a failed reading, in the test or in
the thresholds, gives one warning.  The detailed search tries the test and the
thresholds apart and records both.  The thresholds are tried only after a test
that held, so a rule still gives at most one warning, and it is the same one.

`attempt_spec` says what one attempt records.  Everything about whole searches
follows from it by induction on the rules, for readings that fail anywhere.
-/

/-- The rule stands at the index and applies, and no rule before it does. -/
def FirstApplying (rules : List Rule) (source : Attributes) (index : Nat) (rule : Rule) : Prop :=
  rules[index]? = some rule ∧ rule.applies source = true ∧
    ∀ earlier < index, ∀ other, rules[earlier]? = some other -> other.applies source = false

/-- The outcome tells what became of the rule at the index. -/
structure Outcome.Describes (outcome : Outcome) (index : Nat) (rule : Rule)
    (source : Attributes) : Prop where
  index : outcome.index = index
  model : outcome.model = rule.model
  test : outcome.test = none <-> rule.test = none
  thresholds : outcome.thresholds = none <-> outcome.test = some false
  matched : outcome.matched = rule.applies source

/-! ## One attempt -/

theorem Warning.of_value {Value : Type} (model : Location) (value : Value) :
    Warning.of model (.value value) = [] := rfl

namespace Rule

/-- An attempt describes its rule and gives the warnings of the check of the whole rule. -/
theorem attempt_spec (rule : Rule) (source : Attributes) (index : Nat) :
    (rule.attempt source index).1.Describes index rule source ∧
      (rule.attempt source index).2 = Warning.of rule.model (rule.check source) := by
  cases stated : rule.test with
  | none =>
      have whole : rule.check source = rule.thresholdsReached source := by simp [check, stated]
      refine ⟨⟨?_, ?_, ?_, ?_, ?_⟩, ?_⟩ <;>
        simp [attempt, stated, whole, applies, Outcome.matched]
  | some test =>
      cases held : test.holds source with
      | failed =>
          have whole : rule.check source = .failed := by simp [check, stated, held]
          refine ⟨⟨?_, ?_, ?_, ?_, ?_⟩, ?_⟩ <;>
            simp [attempt, stated, held, whole, applies, Reading.succeeded, Outcome.matched]
      | value holds =>
          cases holds with
          | false =>
              have whole : rule.check source = .value false := by simp [check, stated, held]
              refine ⟨⟨?_, ?_, ?_, ?_, ?_⟩, ?_⟩ <;>
                simp [attempt, stated, held, whole, applies, Reading.succeeded, Outcome.matched,
                  Warning.of_value]
          | true =>
              have whole : rule.check source = rule.thresholdsReached source := by
                simp [check, stated, held]
              refine ⟨⟨?_, ?_, ?_, ?_, ?_⟩, ?_⟩ <;>
                simp [attempt, stated, held, whole, applies, Reading.succeeded, Outcome.matched,
                  Warning.of_value]

/-! ## Whole searches -/

theorem matched_attempt (rule : Rule) (source : Attributes) (index : Nat) :
    (rule.attempt source index).1.matched = rule.applies source :=
  (rule.attempt_spec source index).1.matched

theorem warnings_attempt (rule : Rule) (source : Attributes) (index : Nat) :
    (rule.attempt source index).2 = Warning.of rule.model (rule.check source) :=
  (rule.attempt_spec source index).2

/-- Both searches give the same selection and the same warnings in the same order. -/
theorem reportFrom_agrees (source : Attributes) (start : Nat) (rules : List Rule) :
    (reportFrom source start rules).selection = (searchFrom source start rules).selection ∧
      (reportFrom source start rules).warnings = (searchFrom source start rules).warnings := by
  induction rules generalizing start with
  | nil => exact ⟨rfl, rfl⟩
  | cons rule rest inductionHypothesis =>
      have later := inductionHypothesis (start + 1)
      have matched := rule.matched_attempt source start
      have warnings := rule.warnings_attempt source start
      rw [applies] at matched
      cases succeeded : (rule.check source).succeeded <;>
        simp [reportFrom, searchFrom, matched, warnings, succeeded, later]

/-- The first rule of a list applies and is chosen, or it does not and the choice is that of the
others, one place further. -/
theorem firstApplying_cons_iff (source : Attributes) (head : Rule) (rest : List Rule) (index : Nat)
    (rule : Rule) :
    FirstApplying (head :: rest) source index rule <->
      (index = 0 ∧ rule = head ∧ head.applies source = true) ∨
        ∃ later, index = later + 1 ∧ head.applies source = false ∧
          FirstApplying rest source later rule := by
  cases index with
  | zero =>
      constructor
      · rintro ⟨found, applies, _⟩
        cases found
        exact Or.inl ⟨rfl, rfl, applies⟩
      · rintro (⟨_, rfl, applies⟩ | ⟨later, impossible, _⟩)
        · exact ⟨rfl, applies, fun earlier below => absurd below (Nat.not_lt_zero earlier)⟩
        · cases impossible
  | succ later =>
      constructor
      · rintro ⟨found, applies, others⟩
        refine Or.inr ⟨later, rfl, others 0 (Nat.succ_pos later) head rfl, found, applies, ?_⟩
        intro earlier below other stands
        exact others (earlier + 1) (Nat.succ_lt_succ below) other stands
      · rintro (⟨impossible, _⟩ | ⟨later', same, fails, found, applies, others⟩)
        · cases impossible
        · cases same
          refine ⟨found, applies, fun earlier below other stands => ?_⟩
          cases earlier with
          | zero =>
              cases stands
              exact fails
          | succ before => exact others before (Nat.lt_of_succ_lt_succ below) other stands

/-- The search chooses the first rule that applies. -/
theorem searchFrom_eq_some_iff (source : Attributes) (start : Nat) (rules : List Rule)
    (selection : Selection) :
    (searchFrom source start rules).selection = some selection <->
      ∃ index rule, FirstApplying rules source index rule ∧
        selection = ⟨start + index, rule.model⟩ := by
  induction rules generalizing start with
  | nil =>
      constructor
      · intro impossible
        cases impossible
      · rintro ⟨index, rule, ⟨impossible, _⟩, _⟩
        cases impossible
  | cons head rest inductionHypothesis =>
      simp only [firstApplying_cons_iff]
      cases succeeded : (head.check source).succeeded with
      | true =>
          simp only [searchFrom, succeeded, if_true, Option.some.injEq]
          constructor
          · rintro rfl
            exact ⟨0, head, Or.inl ⟨rfl, rfl, succeeded⟩, rfl⟩
          · rintro ⟨index, rule, ⟨rfl, rfl, _⟩ | ⟨later, _, fails, _⟩, same⟩
            · exact same.symm
            · rw [applies, succeeded] at fails
              cases fails
      | false =>
          simp only [searchFrom, succeeded, Bool.false_eq_true, if_false, inductionHypothesis]
          constructor
          · rintro ⟨index, rule, first, rfl⟩
            refine ⟨index + 1, rule, Or.inr ⟨index, rfl, succeeded, first⟩, ?_⟩
            rw [Nat.add_right_comm, Nat.add_assoc]
          · rintro ⟨index, rule, ⟨_, rfl, here⟩ | ⟨later, rfl, _, first⟩, same⟩
            · rw [applies, succeeded] at here
              cases here
            · exact ⟨later, rule, first, by rw [same, Nat.add_right_comm, Nat.add_assoc]⟩

/-- The search chooses nothing when no rule applies. -/
theorem searchFrom_eq_none_iff (source : Attributes) (start : Nat) (rules : List Rule) :
    (searchFrom source start rules).selection = none <->
      ∀ rule ∈ rules, rule.applies source = false := by
  induction rules generalizing start with
  | nil => simp [searchFrom]
  | cons head rest inductionHypothesis =>
      cases succeeded : (head.check source).succeeded <;>
        simp [searchFrom, applies, succeeded, inductionHypothesis]

/-! ## Outcomes -/

theorem outcomes_reportFrom_cons (source : Attributes) (start : Nat) (head : Rule)
    (rest : List Rule) :
    (reportFrom source start (head :: rest)).outcomes =
      (head.attempt source start).1 ::
        if head.applies source then [] else (reportFrom source (start + 1) rest).outcomes := by
  rw [reportFrom, ← matched_attempt head source start]
  cases matched : (head.attempt source start).1.matched <;> simp [matched]

/-- The outcomes are those of the rules from the first on. -/
theorem describes_of_recorded (source : Attributes) (start : Nat) (rules : List Rule)
    {place : Nat} {outcome : Outcome}
    (recorded : (reportFrom source start rules).outcomes[place]? = some outcome) :
    ∃ rule, rules[place]? = some rule ∧ outcome.Describes (start + place) rule source := by
  induction rules generalizing start place with
  | nil => cases recorded
  | cons head rest inductionHypothesis =>
      rw [outcomes_reportFrom_cons] at recorded
      cases place with
      | zero =>
          cases recorded
          exact ⟨head, rfl, (head.attempt_spec source start).1⟩
      | succ place =>
          rw [List.getElem?_cons_succ] at recorded
          cases applies : head.applies source with
          | true =>
              rw [applies] at recorded
              cases recorded
          | false =>
              rw [applies] at recorded
              rcases inductionHypothesis (start + 1) recorded with ⟨rule, stands, describes⟩
              refine ⟨rule, stands, ?_⟩
              rw [← Nat.add_assoc, Nat.add_right_comm]
              exact describes

/-- When nothing is chosen, every rule was tried. -/
theorem length_outcomes_of_none (source : Attributes) (start : Nat) (rules : List Rule)
    (noneApplies : ∀ rule ∈ rules, rule.applies source = false) :
    (reportFrom source start rules).outcomes.length = rules.length := by
  induction rules generalizing start with
  | nil => rfl
  | cons head rest inductionHypothesis =>
      have parts := List.forall_mem_cons.mp noneApplies
      rw [outcomes_reportFrom_cons, parts.1, List.length_cons, List.length_cons]
      exact congrArg (· + 1) (inductionHypothesis (start + 1) parts.2)

/-- When a rule is chosen, no rule after it was tried. -/
theorem length_outcomes_of_first (source : Attributes) (start : Nat) (rules : List Rule)
    {index : Nat} {rule : Rule} (first : FirstApplying rules source index rule) :
    (reportFrom source start rules).outcomes.length = index + 1 := by
  induction rules generalizing start index with
  | nil => cases first.1
  | cons head rest inductionHypothesis =>
      rw [outcomes_reportFrom_cons, List.length_cons]
      rcases (firstApplying_cons_iff source head rest index rule).mp first with
        ⟨rfl, rfl, applies⟩ | ⟨later, rfl, fails, remains⟩
      · rw [applies]
        rfl
      · rw [fails]
        exact congrArg (· + 1) (inductionHypothesis (start + 1) remains)

end Rule

/-! ## Both searches of a list of overrides -/

namespace Overrides

theorem select_eq_some_iff (overrides : Overrides) (source : Attributes) (selection : Selection) :
    overrides.select source = some selection <->
      ∃ index rule, FirstApplying overrides.rules source index rule ∧
        selection = ⟨index, rule.model⟩ := by
  have chosen := Rule.searchFrom_eq_some_iff source 0 overrides.rules selection
  simp only [Nat.zero_add] at chosen
  exact chosen

theorem select_eq_none_iff (overrides : Overrides) (source : Attributes) :
    overrides.select source = none <-> ∀ rule ∈ overrides.rules, rule.applies source = false :=
  Rule.searchFrom_eq_none_iff source 0 overrides.rules

theorem length_outcomes (overrides : Overrides) (source : Attributes) :
    (overrides.report source).outcomes.length =
      match overrides.select source with
      | some selection => selection.index + 1
      | none => overrides.rules.length := by
  cases chosen : overrides.select source with
  | none =>
      exact Rule.length_outcomes_of_none source 0 overrides.rules
        ((overrides.select_eq_none_iff source).mp chosen)
  | some selection =>
      rcases (overrides.select_eq_some_iff source selection).mp chosen with
        ⟨index, rule, first, rfl⟩
      exact Rule.length_outcomes_of_first source 0 overrides.rules first

theorem describes_of_recorded (overrides : Overrides) (source : Attributes) {place : Nat}
    {outcome : Outcome} (recorded : (overrides.report source).outcomes[place]? = some outcome) :
    ∃ rule, overrides.rules[place]? = some rule ∧ outcome.Describes place rule source := by
  rcases Rule.describes_of_recorded source 0 overrides.rules recorded with ⟨rule, stands, describes⟩
  rw [Nat.zero_add] at describes
  exact ⟨rule, stands, describes⟩

/-- Of the recorded outcomes, the one that was chosen is true and the others are not. -/
theorem matched_iff_selected (overrides : Overrides) (source : Attributes) {place : Nat}
    {outcome : Outcome} (recorded : (overrides.report source).outcomes[place]? = some outcome) :
    outcome.matched = true <-> overrides.select source = some ⟨place, outcome.model⟩ := by
  rcases overrides.describes_of_recorded source recorded with ⟨rule, stands, describes⟩
  rw [describes.matched, select_eq_some_iff]
  constructor
  · intro applies
    cases chosen : overrides.select source with
    | none =>
        have fails := (overrides.select_eq_none_iff source).mp chosen rule
          (List.mem_of_getElem? stands)
        rw [applies] at fails
        cases fails
    | some selection =>
        -- The outcome is recorded, so it stands no later than the first rule that applies.
        rcases (overrides.select_eq_some_iff source selection).mp chosen with
          ⟨index, other, first, rfl⟩
        have bound := (List.getElem?_eq_some_iff.mp recorded).1
        rw [overrides.length_outcomes source, chosen] at bound
        rcases Nat.lt_or_eq_of_le (Nat.le_of_lt_succ bound) with earlier | rfl
        · have fails := first.2.2 place earlier rule stands
          rw [applies] at fails
          cases fails
        · have same := stands.symm.trans first.1
          cases same
          exact ⟨place, rule, first, by rw [describes.model]⟩
  · rintro ⟨index, other, first, same⟩
    obtain rfl : place = index := congrArg Selection.index same
    have here := stands.symm.trans first.1
    cases here
    exact first.2.1

/-- The plain choice, the model alone and the detailed search agree: they give the first rule
that applies, with the same warnings, and the report has one true outcome for each rule up to
that one. -/
theorem searches_agree (overrides : Overrides) (source : Attributes) :
    (overrides.report source).selection = overrides.select source ∧
      (overrides.report source).warnings = (Rule.search overrides.rules source).warnings ∧
      (∀ selection, overrides.select source = some selection <->
        ∃ index rule, FirstApplying overrides.rules source index rule ∧
          selection = ⟨index, rule.model⟩) ∧
      (overrides.select source = none <->
        ∀ rule ∈ overrides.rules, rule.applies source = false) ∧
      (∀ model, overrides.model? source = some model <->
        ∃ index rule, FirstApplying overrides.rules source index rule ∧ rule.model = model) ∧
      (overrides.report source).outcomes.length =
        (match overrides.select source with
          | some selection => selection.index + 1
          | none => overrides.rules.length) ∧
      ∀ (place : Nat) (outcome : Outcome),
        (overrides.report source).outcomes[place]? = some outcome ->
          (∃ rule, overrides.rules[place]? = some rule ∧
            outcome.Describes place rule source) ∧
          (outcome.matched = true <->
            overrides.select source = some ⟨place, outcome.model⟩) := by
  have agrees := Rule.reportFrom_agrees source 0 overrides.rules
  refine ⟨agrees.1, agrees.2, overrides.select_eq_some_iff source,
    overrides.select_eq_none_iff source, fun model => ?_, overrides.length_outcomes source,
    fun place outcome recorded => ⟨overrides.describes_of_recorded source recorded,
      overrides.matched_iff_selected source recorded⟩⟩
  rw [model?, Option.map_eq_some_iff]
  constructor
  · rintro ⟨selection, chosen, rfl⟩
    rcases (overrides.select_eq_some_iff source selection).mp chosen with ⟨index, rule, first, rfl⟩
    exact ⟨index, rule, first, rfl⟩
  · rintro ⟨index, rule, first, rfl⟩
    exact ⟨⟨index, rule.model⟩,
      (overrides.select_eq_some_iff source _).mpr ⟨index, rule, first, rfl⟩, rfl⟩

end Overrides
end ItemModels

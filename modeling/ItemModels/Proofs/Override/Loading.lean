import Mathlib.Data.List.Forall2
import ItemModels.Override.Overrides
import ItemModels.Proofs.Override.Compilation

namespace ItemModels

/-!
# Loading overrides

Only one thing can keep overrides from being loaded once their file has been
read: an entry outside the namespaces of tests whose value is not a number.
Rules are made in the order of the overrides, and the entries of an override are
walked in their order, so the fault is about the first such entry of the first
override that has one.  Entries in the namespaces of tests never stop the work
and cannot change where it stops.

`compile` walks one override, and `result_compileAll` puts these walks
together: the first fault of an override, or else one rule for each.
-/

namespace Namespaces

/-- The entry is outside the namespaces of tests and its value, which may be null, is not a
number. -/
def LacksNumber (namespaces : Namespaces) (entry : Location × Json) : Prop :=
  namespaces.role entry.1 = .threshold ∧ ∀ number, entry.2 ≠ .number number

theorem least_isNone_iff (value : Json) :
    (Rule.least? value).isNone = true <-> ∀ number, value ≠ .number number := by
  cases value <;> simp [Rule.least?]

theorem invalid_eq_true_iff (namespaces : Namespaces) (entry : Location × Json) :
    namespaces.invalid entry = true <-> namespaces.LacksNumber entry := by
  rw [invalid, Bool.and_eq_true, beq_iff_eq, least_isNone_iff]
  rfl

instance (namespaces : Namespaces) : DecidablePred namespaces.LacksNumber := fun entry =>
  decidable_of_iff _ (namespaces.invalid_eq_true_iff entry)

theorem invalid_eq_false_iff (namespaces : Namespaces) (entry : Location × Json) :
    namespaces.invalid entry = false <-> ¬ namespaces.LacksNumber entry := by
  rw [← invalid_eq_true_iff, Bool.not_eq_true]

end Namespaces

/-- The entries outside the namespaces of tests, in their order. -/
def Requirements.bounds (requirements : Requirements) (namespaces : Namespaces) :
    List (Location × Json) :=
  requirements.entries.filter fun entry => namespaces.role entry.1 = .threshold

/-- The entry states the threshold: its key is that of the property, and its value is a number that
gives the bound. -/
def Threshold.StatedBy (threshold : Threshold) (entry : Location × Json) : Prop :=
  threshold.key = entry.1 ∧
    ∃ number, entry.2 = .number number ∧ threshold.least = number.toSingle

/-- The rule has the model of the override and one threshold for each of its bounds. -/
structure Rule.MadeFrom (rule : Rule) (namespaces : Namespaces)
    (override : String × Requirements) : Prop where
  model : rule.model = Location.ofText override.1
  thresholds : List.Forall₂ Threshold.StatedBy rule.thresholds (override.2.bounds namespaces)

namespace Requirements

/-- The fault names the first entry that lacks a number. -/
def Blames (requirements : Requirements) (namespaces : Namespaces) (model : Location)
    (fault : ThresholdFault) : Prop :=
  ∃ before entry after, requirements.entries = before ++ entry :: after ∧
    namespaces.LacksNumber entry ∧ (∀ earlier ∈ before, ¬ namespaces.LacksNumber earlier) ∧
    fault = { model, key := entry.1 }

end Requirements

/-! ## One override -/

namespace Rule

/-- The fault that ends the making of a rule, if there is one. -/
def fault? (namespaces : Namespaces) (override : String × Requirements) : Option ThresholdFault :=
  (override.2.entries.find? namespaces.invalid).map fun entry =>
    { model := Location.ofText override.1, key := entry.1 }

/-- The rule of an override that has no fault. -/
def ofOverride (namespaces : Namespaces) (override : String × Requirements) : Rule :=
  ofEntries namespaces (Location.ofText override.1) override.2.entries

theorem result_compile_eq_fault (namespaces : Namespaces) (override : String × Requirements) :
    (compile override.1 override.2 namespaces).result =
      match fault? namespaces override with
      | some fault => .error fault
      | none => .ok (ofOverride namespaces override) := by
  rw [result_compile, fault?]
  cases override.2.entries.find? namespaces.invalid <;> rfl

theorem fault_eq_none_iff (namespaces : Namespaces) (override : String × Requirements) :
    fault? namespaces override = none <->
      ∀ entry ∈ override.2.entries, ¬ namespaces.LacksNumber entry := by
  rw [fault?, Option.map_eq_none_iff, List.find?_eq_none]
  simp only [namespaces.invalid_eq_true_iff]

theorem fault_eq_some_iff (namespaces : Namespaces) (override : String × Requirements)
    (fault : ThresholdFault) :
    fault? namespaces override = some fault <->
      override.2.Blames namespaces (Location.ofText override.1) fault := by
  rw [fault?, Option.map_eq_some_iff]
  constructor
  · rintro ⟨entry, found, rfl⟩
    rcases List.find?_eq_some_iff_append.mp found with ⟨invalid, before, after, split, others⟩
    have lacks := (namespaces.invalid_eq_true_iff entry).mp invalid
    refine ⟨before, entry, after, split, lacks, fun earlier member => ?_, rfl⟩
    have valid := others earlier member
    rw [Bool.not_eq_true'] at valid
    exact (namespaces.invalid_eq_false_iff earlier).mp valid
  · rintro ⟨before, entry, after, split, lacks, others, rfl⟩
    refine ⟨entry, List.find?_eq_some_iff_append.mpr ?_, rfl⟩
    refine ⟨(namespaces.invalid_eq_true_iff entry).mpr lacks, before, after, split, ?_⟩
    intro earlier member
    rw [Bool.not_eq_true']
    exact (namespaces.invalid_eq_false_iff earlier).mpr (others earlier member)

theorem find_invalid_bounds (namespaces : Namespaces) (requirements : Requirements) :
    (requirements.bounds namespaces).find? namespaces.invalid =
      requirements.entries.find? namespaces.invalid := by
  rw [Requirements.bounds, List.find?_filter]
  apply congrArg (fun test => requirements.entries.find? test)
  funext entry
  cases invalid : namespaces.invalid entry with
  | false => simp
  | true => simp [((namespaces.invalid_eq_true_iff entry).mp invalid).1]

/-- The model and the bounds alone decide about the fault. -/
theorem fault_of_bounds {namespaces : Namespaces} {one other : String × Requirements}
    (model : one.1 = other.1) (bounds : one.2.bounds namespaces = other.2.bounds namespaces) :
    fault? namespaces one = fault? namespaces other := by
  have found := congrArg (fun entries => entries.find? namespaces.invalid) bounds
  simp only [find_invalid_bounds] at found
  rw [fault?, fault?, found, model]

/-- Without a fault, the thresholds of the rule are those that the bounds state. -/
theorem thresholds_statedBy {namespaces : Namespaces} {entries : List (Location × Json)}
    (valid : ∀ entry ∈ entries, ¬ namespaces.LacksNumber entry) :
    List.Forall₂ Threshold.StatedBy (entries.filterMap namespaces.threshold?)
      (entries.filter fun entry => namespaces.role entry.1 = .threshold) := by
  induction entries with
  | nil => exact .nil
  | cons entry rest inductionHypothesis =>
      rcases List.forall_mem_cons.mp valid with ⟨here, others⟩
      have later := inductionHypothesis others
      cases role : namespaces.role entry.1 with
      | test => simpa [Namespaces.threshold?, role] using later
      | dropped => simpa [Namespaces.threshold?, role] using later
      | threshold =>
          cases stated : entry.2 with
          | number number =>
              simp only [List.filterMap_cons, Namespaces.threshold?, role, stated, least?,
                Option.map_some, List.filter_cons, decide_true, if_true]
              exact .cons ⟨rfl, number, stated, rfl⟩ later
          | _ => exact absurd ⟨role, by simp [stated]⟩ here

theorem ofOverride_madeFrom {namespaces : Namespaces} {override : String × Requirements}
    (valid : ∀ entry ∈ override.2.entries, ¬ namespaces.LacksNumber entry) :
    (ofOverride namespaces override).MadeFrom namespaces override where
  model := rfl
  thresholds := thresholds_statedBy valid

end Rule

/-! ## All overrides -/

namespace Overrides

/-- The fault is about the first override that has an entry without a number, and about the first
such entry of it. -/
def FirstFault (namespaces : Namespaces) (stated : List (String × Requirements))
    (fault : ThresholdFault) : Prop :=
  ∃ before override after, stated = before ++ override :: after ∧
    override.2.Blames namespaces (Location.ofText override.1) fault ∧
    ∀ earlier ∈ before, ∀ entry ∈ earlier.2.entries, ¬ namespaces.LacksNumber entry

/-- The overrides switch to the same models under the same bounds. -/
def SameBounds (namespaces : Namespaces) : (one other : List (String × Requirements)) -> Prop :=
  List.Forall₂ fun override override' =>
    override.1 = override'.1 ∧ override.2.bounds namespaces = override'.2.bounds namespaces

/-- Rules are made up to the first override with a fault, or for all overrides. -/
theorem result_compileAll (namespaces : Namespaces) (stated : List (String × Requirements)) :
    (compileAll namespaces stated).result =
      match stated.findSome? (Rule.fault? namespaces) with
      | some fault => .error fault
      | none => .ok (stated.map (Rule.ofOverride namespaces)) := by
  induction stated with
  | nil => rfl
  | cons override rest inductionHypothesis =>
      have step := Rule.result_compile_eq_fault namespaces override
      rw [List.findSome?_cons]
      cases found : Rule.fault? namespaces override with
      | some fault =>
          rw [found] at step
          simp only [compileAll, Logged.bind, step]
      | none =>
          rw [found] at step
          cases later : rest.findSome? (Rule.fault? namespaces) <;>
            simp [compileAll, Logged.bind, Logged.ok, step, inductionHypothesis, later]

theorem result_build (namespaces : Namespaces) (stated : List (String × Requirements)) :
    (build namespaces stated).result =
      match stated.findSome? (Rule.fault? namespaces) with
      | some fault => .error fault
      | none => .ok { rules := stated.map (Rule.ofOverride namespaces), namespaces } := by
  have run := result_compileAll namespaces stated
  cases found : stated.findSome? (Rule.fault? namespaces) <;>
    simp [build, Logged.bind, Logged.ok, run, found]

theorem result_build_eq_error_iff_fault (namespaces : Namespaces)
    (stated : List (String × Requirements)) (fault : ThresholdFault) :
    (build namespaces stated).result = .error fault <->
      stated.findSome? (Rule.fault? namespaces) = some fault := by
  rw [result_build]
  cases stated.findSome? (Rule.fault? namespaces) <;> simp

theorem result_build_eq_error_iff (namespaces : Namespaces)
    (stated : List (String × Requirements)) (fault : ThresholdFault) :
    (build namespaces stated).result = .error fault <-> FirstFault namespaces stated fault := by
  rw [result_build_eq_error_iff_fault, List.findSome?_eq_some_iff]
  simp only [Rule.fault_eq_some_iff, Rule.fault_eq_none_iff]
  rfl

/-- There is a fault exactly when some entry lacks a number. -/
theorem exists_firstFault_iff (namespaces : Namespaces) (stated : List (String × Requirements)) :
    (∃ fault, FirstFault namespaces stated fault) <->
      ∃ override ∈ stated, ∃ entry ∈ override.2.entries, namespaces.LacksNumber entry := by
  simp only [← result_build_eq_error_iff, result_build_eq_error_iff_fault]
  rw [← Option.isSome_iff_exists, ← not_iff_not, Bool.not_eq_true, Option.isSome_eq_false_iff,
    Option.isNone_iff_eq_none, List.findSome?_eq_none_iff]
  simp only [Rule.fault_eq_none_iff, not_exists, not_and]

theorem rules_of_build {namespaces : Namespaces} {stated : List (String × Requirements)}
    {overrides : Overrides} (made : (build namespaces stated).result = .ok overrides) :
    overrides.namespaces = namespaces ∧
      List.Forall₂ (fun rule override => rule.MadeFrom namespaces override) overrides.rules
        stated := by
  rw [result_build] at made
  cases found : stated.findSome? (Rule.fault? namespaces) with
  | some fault =>
      rw [found] at made
      cases made
  | none =>
      rw [found] at made
      cases made
      refine ⟨rfl, List.forall₂_map_left_iff.mpr (List.forall₂_same.mpr ?_)⟩
      intro override member
      have noFault := List.findSome?_eq_none_iff.mp found override member
      exact Rule.ofOverride_madeFrom ((Rule.fault_eq_none_iff namespaces override).mp noFault)

theorem findSome_fault_of_sameBounds {namespaces : Namespaces}
    {one other : List (String × Requirements)} (same : SameBounds namespaces one other) :
    one.findSome? (Rule.fault? namespaces) = other.findSome? (Rule.fault? namespaces) := by
  induction same with
  | nil => rfl
  | cons here _ inductionHypothesis =>
      have head := Rule.fault_of_bounds here.1 here.2
      rw [List.findSome?_cons, List.findSome?_cons, head, inductionHypothesis]

theorem load_of_read {text : String} {entries : List Entry}
    (namespaces : Namespaces) (read : ModelDocument.read text = .ok entries) :
    (load namespaces text).map Prod.fst =
      (build namespaces (entries.map Overrides.stated)).result.mapError .threshold := by
  unfold load
  rw [read]
  cases result : (build namespaces (entries.map Overrides.stated)).result <;>
    simp [result, Except.map, Except.mapError]

/-- Overrides that a program states, or that a file lists which can be read, are loaded unless an
entry outside the namespaces of tests lacks a number.  Then the fault is about the first such entry
of the first override that has one.  Otherwise there is one rule for each override, in order, with
its model and one threshold for each of its bounds.  No other entry has a part in this. -/
theorem loads_unless_number_lacks (namespaces : Namespaces) :
    (∀ stated : List (String × Requirements),
      ((∃ fault, (build namespaces stated).result = .error fault) <->
        ∃ override ∈ stated, ∃ entry ∈ override.2.entries, namespaces.LacksNumber entry) ∧
      (∀ fault, (build namespaces stated).result = .error fault <->
        FirstFault namespaces stated fault) ∧
      ∀ overrides, (build namespaces stated).result = .ok overrides ->
        overrides.namespaces = namespaces ∧
          List.Forall₂ (fun rule override => rule.MadeFrom namespaces override) overrides.rules
            stated) ∧
    (∀ text entries, ModelDocument.read text = .ok entries ->
      (load namespaces text).map Prod.fst =
        (build namespaces (entries.map Overrides.stated)).result.mapError .threshold) ∧
    ∀ one other, SameBounds namespaces one other -> ∀ fault,
      ((build namespaces one).result = .error fault <->
        (build namespaces other).result = .error fault) := by
  refine ⟨fun stated => ⟨?_, result_build_eq_error_iff namespaces stated, fun _ => rules_of_build⟩,
    fun text entries => load_of_read namespaces, fun one other same fault => ?_⟩
  · simp only [result_build_eq_error_iff]
    exact exists_firstFault_iff namespaces stated
  · simp only [result_build_eq_error_iff_fault]
    rw [findSome_fault_of_sameBounds same]

/-- A null value for the pull of a bow keeps a file from being loaded.  It is at fault with the test
of the day, which has no number either, and without it. -/
theorem loads_unless_bow_lacks :
    let text := "[[[\x7b\"ios:day\":[],\"Pull\":null\x7d,\"Item/Bow\"]]]"
    let fault : ThresholdFault := ⟨⟨"minecraft", "item/bow"⟩, ⟨"minecraft", "pull"⟩⟩
    let undated := [("Item/Bow", Requirements.ofMembers [("Pull", .null)])]
    (load .standard text).map Prod.fst = .error (.threshold fault) ∧
      (build .standard undated).result = .error fault := by
  intro text fault undated
  let bow : Entry := ⟨[("ios:day", .array []), ("Pull", .null)], "Item/Bow"⟩
  have spec := loads_unless_number_lacks .standard
  have tokens : Json.tokensOf text.toList =
      [.openArray, .openArray, .openArray, .openObject, .string (some "ios:day"), .colon,
        .openArray, .closeArray, .comma, .string (some "Pull"), .colon, .null, .closeObject,
        .comma, .string (some "Item/Bow"), .closeArray, .closeArray, .closeArray] := by
    decide +kernel
  have read : ModelDocument.read text = .ok [bow] := by
    rw [ModelDocument.read, Json.document, Json.Outline.ofText, tokens]
    rfl
  have blamed : (Overrides.stated bow).2.Blames .standard (Location.ofText "Item/Bow") fault :=
    ⟨[(⟨"ios", "day"⟩, .array [])], (⟨"minecraft", "pull"⟩, .null), [], rfl,
      by decide +kernel, by decide +kernel, by decide +kernel⟩
  have first : FirstFault .standard [Overrides.stated bow] fault :=
    ⟨[], Overrides.stated bow, [], rfl, blamed, by simp⟩
  have refused := ((spec.1 [Overrides.stated bow]).2.1 fault).mpr first
  have same : SameBounds .standard [Overrides.stated bow] undated := .cons ⟨rfl, rfl⟩ .nil
  constructor
  · have loaded := spec.2.1 text [bow] read
    rw [List.map_singleton, refused] at loaded
    exact loaded
  · exact (spec.2.2 _ undated same fault).mp refused

end Overrides
end ItemModels

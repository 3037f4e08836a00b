import ItemModels.Proofs.Override.Keyed
import ItemModels.Proofs.Text.LetterCase
import ItemModels.Override.Rule

namespace ItemModels

/-!
# Overrides in another letter case

An override is written with texts in four places: its model, its keys and the
two namespaces of tests.  The case of ASCII letters in them means nothing.
Model and keys become locations, which are in small letters, and so keys that
are merged in one spelling are merged in every other.  The namespaces are kept
as they are written, and only what they make of a key is asked for.

Two overrides that differ in letter case alone therefore give the same rule with
the same log, or the same fault, and not only rules that apply to the same items.
-/

/-- The same values are stated in the same order, for keys that differ in letter case alone. -/
def Requirements.Restated : (one other : List (String × Json)) -> Prop :=
  List.Forall₂ fun member member' => Text.Respelled member.1 member'.1 ∧ member.2 = member'.2

/-- The namespaces differ in letter case alone. -/
structure Namespaces.Respelled (one other : Namespaces) : Prop where
  main : Text.Respelled one.main other.main
  legacy : Option.Rel Text.Respelled one.legacy other.legacy

/-! ## Keys and their roles -/

theorem Requirements.ofMembers_restated {one other : List (String × Json)}
    (restated : Restated one other) : ofMembers one = ofMembers other := by
  have keys : one.map (Prod.map Location.ofText id) = other.map (Prod.map Location.ofText id) := by
    induction restated with
    | nil => rfl
    | cons here _ inductionHypothesis =>
        rw [List.map_cons, List.map_cons, inductionHypothesis, Prod.map, Prod.map,
          Location.ofText_respelled here.1, here.2]
  have entries : (ofMembers one).entries = (ofMembers other).entries := by
    rw [entries_ofMembers, entries_ofMembers, keys]
  exact congrArg Requirements.mk entries

theorem Namespaces.role_respelled {one other : Namespaces} (respelled : one.Respelled other)
    (key : Location) : one.role key = other.role key := by
  rcases one with ⟨main, legacy⟩
  rcases other with ⟨main', legacy'⟩
  rcases respelled with ⟨mains, legacies⟩
  have here : Text.sameLetters key.space main = Text.sameLetters key.space main' :=
    Text.sameLetters_respelled mains key.space
  cases legacies with
  | none => simp only [role, here]
  | some old => simp only [role, here, Text.sameLetters_respelled old key.space]

/-! ## Rules -/

namespace Rule

section Roles

variable {one other : Namespaces} (roles : ∀ key, one.role key = other.role key)

include roles

theorem compileEntries_of_roles (model : Location) (draft : Draft)
    (entries : List (Location × Json)) :
    compileEntries one model draft entries = compileEntries other model draft entries := by
  induction entries generalizing draft with
  | nil => rfl
  | cons entry rest inductionHypothesis =>
      rcases entry with ⟨key, value⟩
      have step : compileEntry one model draft key value =
          compileEntry other model draft key value := by
        rw [compileEntry, compileEntry, roles]
      have later : (fun next => compileEntries one model next rest) =
          fun next => compileEntries other model next rest := funext inductionHypothesis
      rw [compileEntries, compileEntries, step, later]

/-- Making a rule asks of the namespaces only what the keys are for. -/
theorem compile_of_roles (model : String) (requirements : Requirements) :
    compile model requirements one = compile model requirements other := by
  rw [compile, compile, compileEntries_of_roles roles]

end Roles

/-- Overrides that differ in the case of ASCII letters alone, in the model, in the keys and in the
namespaces, give the same rule with the same log, or the same fault.  So their rules apply to the
same items. -/
theorem compiles_in_any_case {model model' : String} {members members' : List (String × Json)}
    {namespaces namespaces' : Namespaces} (models : Text.Respelled model model')
    (keys : Requirements.Restated members members') (spaces : namespaces.Respelled namespaces') :
    compile model (.ofMembers members) namespaces =
        compile model' (.ofMembers members') namespaces' ∧
      ∀ rule rule', (compile model (.ofMembers members) namespaces).result = .ok rule ->
        (compile model' (.ofMembers members') namespaces').result = .ok rule' ->
          rule = rule' ∧ ∀ source, rule.applies source = rule'.applies source := by
  have requirements : Requirements.ofMembers members = .ofMembers members' :=
    Requirements.ofMembers_restated keys
  have made : compile model (.ofMembers members) namespaces =
      compile model' (.ofMembers members') namespaces' := by
    rw [requirements, compile_of_roles (Namespaces.role_respelled spaces), compile, compile,
      Location.ofText_respelled models]
  refine ⟨made, fun rule rule' first second => ?_⟩
  rw [made, second] at first
  cases first
  exact ⟨rfl, fun source => rfl⟩

/-- A bow that is pulled, in two cases.  The two spellings of the pull are merged before its bound
is taken, the older namespace drops a key on both sides, and the test has a path that is not
known. -/
theorem compiles_bow_in_any_case :
    let members : List (String × Json) := [("Pull", .ofInt 1), ("STI:damage", .null),
      ("ios:moonPhase", .ofInt 3), ("minecraft:PULL", .ofInt 2)]
    let members' : List (String × Json) := [("pULL", .ofInt 1), ("sti:Damage", .null),
      ("Ios:MOONphase", .ofInt 3), ("MINEcraft:pull", .ofInt 2)]
    let namespaces : Namespaces := ⟨"IOS", some "sTi"⟩
    Text.Respelled "item/Bow" "ITEM/bow" ∧ Requirements.Restated members members' ∧
      namespaces.Respelled .standard ∧
      (compile "item/Bow" (.ofMembers members) namespaces).result.toOption.map
          (fun rule => (rule.model, rule.testTitle?, rule.thresholds)) =
        some (⟨"minecraft", "item/bow"⟩, some "moonphase",
          [⟨⟨"minecraft", "pull"⟩, (JsonNumber.whole 2).toSingle⟩]) ∧
      compile "item/Bow" (.ofMembers members) namespaces =
        compile "ITEM/bow" (.ofMembers members') .standard := by
  intro members members' namespaces
  have models : Text.Respelled "item/Bow" "ITEM/bow" := by decide +kernel
  have keys : Requirements.Restated members members' :=
    .cons ⟨by decide +kernel, rfl⟩ (.cons ⟨by decide +kernel, rfl⟩
      (.cons ⟨by decide +kernel, rfl⟩ (.cons ⟨by decide +kernel, rfl⟩ .nil)))
  have spaces : namespaces.Respelled .standard :=
    ⟨by decide +kernel, .some (by decide +kernel)⟩
  exact ⟨models, keys, spaces, by decide +kernel, (compiles_in_any_case models keys spaces).1⟩

end Rule
end ItemModels

import ItemModels.Override.Rule

namespace ItemModels

/-!
Choosing the first rule that applies.

The plain search gives the rule and the warnings about readings that failed on
the way.  The detailed search gives the same and records for every rule that it
tried what became of its test and of its thresholds.
-/

/-- The rule that was chosen: its place in the list and its model. -/
structure Selection where
  index : Nat
  model : Location
deriving DecidableEq, Repr

namespace Selection

def toText (selection : Selection) : String :=
  "#" ++ selection.index.repr ++ " -> " ++ selection.model.toText

end Selection

/-- The warning that a reading failed while the rule for a model was tried. -/
structure Warning where
  model : Location
deriving DecidableEq, Repr

namespace Warning

def message (_ : Warning) : String := "attribute source panicked, override skipped"

/-- The warnings about a check for a model. -/
def of {Value : Type} (model : Location) (reading : Reading Value) : List Warning :=
  if reading.hasFailed then [⟨model⟩] else []

end Warning

/-- What became of a rule that was tried. -/
structure Outcome where
  index : Nat
  model : Location
  /-- Whether the test held; absent when the rule has none. -/
  test : Option Bool
  /-- Whether the thresholds were reached; absent when the test failed before. -/
  thresholds : Option Bool
deriving DecidableEq, Repr

namespace Outcome

def matched (outcome : Outcome) : Bool :=
  outcome.test.getD true && outcome.thresholds.getD false

/-- One part of an outcome in words. -/
def layerText : Option Bool -> String
  | some true => "pass"
  | some false => "fail"
  | none => "-"

def toText (outcome : Outcome) : String :=
  "#" ++ outcome.index.repr ++ " " ++ outcome.model.toText ++ " (extension: " ++
    layerText outcome.test ++ ", legacy: " ++ layerText outcome.thresholds ++ ")"

end Outcome

/-- The result of a plain search. -/
structure Search where
  selection : Option Selection
  warnings : List Warning

/-- The result of a detailed search. -/
structure Report where
  selection : Option Selection
  outcomes : List Outcome
  warnings : List Warning

namespace Report

/-- The report in words, without the time that it took. -/
def toText (report : Report) : String :=
  let selected := match report.selection with
    | some selection => selection.toText
    | none => "none"
  "selected: " ++ selected ++ ", evaluated: " ++ report.outcomes.length.repr

end Report

namespace Rule

/-- Searches rules, the first of which has the given index. -/
def searchFrom (source : Attributes) (index : Nat) : List Rule -> Search
  | [] => ⟨none, []⟩
  | rule :: rest =>
      let reading := rule.check source
      let warnings := Warning.of rule.model reading
      if reading.succeeded then ⟨some ⟨index, rule.model⟩, warnings⟩
      else
        let later := searchFrom source (index + 1) rest
        { later with warnings := warnings ++ later.warnings }

def search (rules : List Rule) (source : Attributes) : Search :=
  searchFrom source 0 rules

/-- Tries a rule, its test and its thresholds apart. -/
def attempt (rule : Rule) (source : Attributes) (index : Nat) : Outcome × List Warning :=
  let reading := rule.test.map fun test => test.holds source
  let test := reading.map Reading.succeeded
  let testWarnings := match reading with
    | some reading => Warning.of rule.model reading
    | none => []
  if test.getD true then
    let thresholds := rule.thresholdsReached source
    ({ index, model := rule.model, test, thresholds := some thresholds.succeeded },
      testWarnings ++ Warning.of rule.model thresholds)
  else ({ index, model := rule.model, test, thresholds := none }, testWarnings)

/-- Searches rules in detail, the first of which has the given index. -/
def reportFrom (source : Attributes) (index : Nat) : List Rule -> Report
  | [] => ⟨none, [], []⟩
  | rule :: rest =>
      let (outcome, warnings) := rule.attempt source index
      if outcome.matched then ⟨some ⟨index, rule.model⟩, [outcome], warnings⟩
      else
        let later := reportFrom source (index + 1) rest
        { later with
          outcomes := outcome :: later.outcomes, warnings := warnings ++ later.warnings }

def report (rules : List Rule) (source : Attributes) : Report :=
  reportFrom source 0 rules

end Rule
end ItemModels

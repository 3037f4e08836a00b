import ItemModels.Override.Namespaces
import ItemModels.Override.Requirements
import ItemModels.Override.Test

namespace ItemModels

/-!
Rules: overrides made ready for use.

A rule is made from the requirements of an override.  The first key that states
a test with a value other than null decides the test; later tests are not even
looked at.  Every key outside the namespaces of tests states a threshold and must
have a number.  Making a rule keeps a log of what was dropped and of what can
never or will always match.
-/

/-- A lower bound on a property. -/
structure Threshold where
  key : Location
  least : Binary .single
deriving DecidableEq

/-- An override: the model that it switches to, its test if it has one, and its thresholds. -/
structure Rule where
  model : Location
  test : Option Test
  thresholds : List Threshold

/-- Something worth noting about an entry. -/
inductive Notice where
  | nullSkipped
  | legacyIgnored
  | unknownTest
  | invalidPattern
  | malformed (value : Json)

namespace Notice

def message : Notice -> String
  | .nullSkipped => "skipping null predicate"
  | .legacyIgnored => "legacy namespace only supports stacking"
  | .unknownTest => "unrecognized predicate; it always matches"
  | .invalidPattern => "invalid name regex"
  | .malformed _ => "malformed predicate; it never matches"

def value? : Notice -> Option Json
  | .malformed value => some value
  | _ => none

end Notice

/-- A notice with the model and the key that it is about. -/
structure Event where
  model : Location
  key : Location
  notice : Notice

/-- A threshold whose value is not a number. -/
structure ThresholdFault where
  model : Location
  key : Location
deriving DecidableEq, Repr

namespace ThresholdFault

def message (fault : ThresholdFault) : String :=
  "predicate '" ++ fault.key.toText ++ "' of override '" ++ fault.model.toText ++
    "' must be a number"

end ThresholdFault

/-- The result of a step of making rules, with its log. -/
structure Logged (Value : Type) where
  log : List Event
  result : Except ThresholdFault Value

namespace Logged

variable {First Second : Type}

def ok (log : List Event) (value : First) : Logged First := ⟨log, .ok value⟩

/-- Goes on with the value, if there is one; the logs follow each other. -/
def bind (logged : Logged First) (next : First -> Logged Second) : Logged Second :=
  match logged.result with
  | .error fault => ⟨logged.log, .error fault⟩
  | .ok value =>
      let following := next value
      ⟨logged.log ++ following.log, following.result⟩

end Logged

namespace Rule

/-- A rule in the making. -/
structure Draft where
  test : Option Test
  /-- Whether some key states a test. -/
  hasTestKey : Bool
  thresholds : List Threshold

namespace Draft

def start : Draft := ⟨none, false, []⟩

/-- The test of the finished rule. -/
def finalTest (draft : Draft) : Option Test :=
  if draft.hasTestKey && draft.test.isNone then some .never else draft.test

end Draft

/-- Whether a value is a text that states no pattern. -/
def statesInvalidPattern (kind : TestKind) (value : Json) : Bool :=
  kind == .name && value.toText?.isSome && (Test.pattern? value).isNone

/-- The test that a key and its value state, with what is worth noting about them. -/
def compileTest (key : Location) (value : Json) : Test × List Notice :=
  match TestKind.ofPath? key.path with
  | none => (.unknown key.path, [.unknownTest])
  | some kind =>
      let test := Test.ofJson kind value
      let invalid := if statesInvalidPattern kind value then [Notice.invalidPattern] else []
      let malformed := if test.isMalformed then [Notice.malformed value] else []
      (test, invalid ++ malformed)

/-- The lower bound that a value states. -/
def least? : Json -> Option (Binary .single)
  | .number number => some number.toSingle
  | _ => none

/-- Adds an entry to a draft. -/
def compileEntry (namespaces : Namespaces) (model : Location) (draft : Draft)
    (key : Location) (value : Json) : Logged Draft :=
  let note (notices : List Notice) : List Event :=
    notices.map fun notice => { model, key, notice }
  match namespaces.role key with
  | .test =>
      let seen := { draft with hasTestKey := true }
      if draft.test.isSome then .ok [] seen
      else if value.isNull then .ok (note [.nullSkipped]) seen
      else
        let (test, notices) := compileTest key value
        .ok (note notices) { seen with test := some test }
  | .dropped => .ok (note [.legacyIgnored]) draft
  | .threshold =>
      match least? value with
      | some least =>
          .ok [] { draft with thresholds := draft.thresholds ++ [{ key, least }] }
      | none => ⟨[], .error { model, key }⟩

/-- Adds entries to a draft, up to the first invalid threshold. -/
def compileEntries (namespaces : Namespaces) (model : Location) (draft : Draft) :
    List (Location × Json) -> Logged Draft
  | [] => .ok [] draft
  | (key, value) :: rest =>
      (compileEntry namespaces model draft key value).bind fun next =>
        compileEntries namespaces model next rest

/-- Makes the rule that switches to a model under the given requirements. -/
def compile (model : String) (requirements : Requirements) (namespaces : Namespaces) :
    Logged Rule :=
  let location := Location.ofText model
  (compileEntries namespaces location .start requirements.entries).bind fun draft =>
    .ok [] { model := location, test := draft.finalTest, thresholds := draft.thresholds }

def testTitle? (rule : Rule) : Option String :=
  rule.test.map Test.title

def thresholdReached (source : Attributes) (threshold : Threshold) : Reading Bool := do
  match <- source.property threshold.key with
  | some value => .value (value.atLeast threshold.least)
  | none => .value false

/-- Whether every threshold is reached, tried in order up to the first that is not. -/
def thresholdsReached (rule : Rule) (source : Attributes) : Reading Bool :=
  Reading.forAll (thresholdReached source) rule.thresholds

/-- Whether the test of the rule, if it has one, and then its thresholds hold. -/
def check (rule : Rule) (source : Attributes) : Reading Bool :=
  match rule.test with
  | none => rule.thresholdsReached source
  | some test =>
      (test.holds source).bind fun holds =>
        if holds then rule.thresholdsReached source else .value false

/-- Whether the rule applies to an item.  It does not if a reading fails. -/
def applies (rule : Rule) (source : Attributes) : Bool :=
  (rule.check source).succeeded

end Rule
end ItemModels

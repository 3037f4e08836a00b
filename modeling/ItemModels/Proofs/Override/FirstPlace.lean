import ItemModels.Json.Render
import ItemModels.Proofs.Override.Keyed

namespace ItemModels
namespace Requirements

/-!
# First places and last values

Requirements are made from the members of an object or from nothing, and then
changed by stating a value for a key, any number of times.  How they were made
leaves no trace.  They are those of one sequence, the members followed by what was
stated later, and it does not matter where one ends and the other begins.

Of that sequence they keep one entry for each location.  Where the entry stands is
fixed by the first statement for the location, and what it holds by the last one.
Both are said of the sequence itself, in which a location may be spelled in many
ways.
-/

/-- The value was stated for the location, and afterwards none was, in whatever spelling. -/
def StatedLast (stated : List (String × Json)) (location : Location) (value : Json) : Prop :=
  ∃ before key after, stated = before ++ (key, value) :: after ∧ Location.ofText key = location ∧
    ∀ later ∈ after, Location.ofText later.1 ≠ location

/-- The locations that a sequence of statements names, with repetitions. -/
def named (stated : List (String × Json)) : List Location :=
  stated.map fun statement => Location.ofText statement.1

/-- To state more is to have stated it with the members. -/
theorem foldl_put_ofMembers (members calls : List (String × Json)) :
    calls.foldl (fun requirements call => requirements.put call.1 call.2) (ofMembers members) =
      ofMembers (members ++ calls) := by
  rw [ofMembers, ofMembers, List.foldl_append]

theorem keys_ofMembers (stated : List (String × Json)) :
    (ofMembers stated).entries.map Prod.fst = (named stated).eraseDups := by
  rw [entries_ofMembers, Keyed.keys_gather, List.map_map]
  rfl

theorem mem_ofMembers_iff (stated : List (String × Json)) (location : Location) (value : Json) :
    (location, value) ∈ (ofMembers stated).entries <-> StatedLast stated location value := by
  rw [entries_ofMembers, Keyed.mem_gather_iff]
  exact Keyed.last_renamed_eq_some_iff Location.ofText location value stated

/-- Requirements that are made from the members of an object, which may have none, and to which
more is stated have one entry for each location that was named.  The entries stand in the order in
which the locations were first named, and each has the value that was stated last for its
location. -/
theorem keeps_first_place_and_last_value (members calls : List (String × Json)) :
    let stated := members ++ calls
    let requirements :=
      calls.foldl (fun requirements call => requirements.put call.1 call.2) (ofMembers members)
    (requirements.entries.map Prod.fst).Nodup ∧
    (∀ location, location ∈ requirements.entries.map Prod.fst <->
      ∃ statement ∈ stated, Location.ofText statement.1 = location) ∧
    (requirements.entries.map Prod.fst).Pairwise (fun one other =>
      (named stated).idxOf one < (named stated).idxOf other) ∧
    ∀ location value, (location, value) ∈ requirements.entries <->
      StatedLast stated location value := by
  intro stated requirements
  have made : requirements = ofMembers stated := foldl_put_ofMembers members calls
  have keys : requirements.entries.map Prod.fst = (named stated).eraseDups := by
    rw [made, keys_ofMembers]
  refine ⟨?_, fun location => ?_, ?_, fun location value => ?_⟩
  · rw [keys]
    exact Keyed.nodup_eraseDups _
  · rw [keys, List.mem_eraseDups]
    exact List.mem_map
  · rw [keys]
    exact Keyed.pairwise_eraseDups _
  · rw [made]
    exact mem_ofMembers_iff stated location value

/-- The first key is stated again in another spelling. -/
example : ((((ofMembers [("ios:stacking", .string "=1")]).put "ios:day" (.ofInt 2)).put
    "IOS:Stacking" .null).put "pull" (.ofInt 1)).entries.map
      (fun entry => (entry.1.toText, entry.2.render)) =
    [("ios:stacking", "null"), ("ios:day", "2"), ("minecraft:pull", "1")] := by
  decide +kernel

end Requirements
end ItemModels

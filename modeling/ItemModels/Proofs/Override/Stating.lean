import ItemModels.Proofs.Json.Spelling
import ItemModels.Proofs.Override.Keyed
import ItemModels.Proofs.Override.Loading

namespace ItemModels

/-!
# Overrides stated by a file and by a program

A program states the requirements of an override key by key.  A file lists the
same keys and values as the members of an object.  What a file states goes
through one more step: a member written again in the same spelling is merged
with the first one before the spellings of a location are.  The keys come out the
same and in the same order.  The values are the same as long as the value that was
written last for a location is also the last one of its newest spelling, the
spelling that was written for the first time last.  Without a member written
twice this cannot fail.
-/

namespace Entry

/-- The value that was written last for a location, in whatever spelling. -/
def lastValue? (entry : Entry) (location : Location) : Option Json :=
  Keyed.last? location (entry.written.map (Prod.map Location.ofText id))

/-- The last value of the newest spelling of a location. -/
def newestValue? (entry : Entry) (location : Location) : Option Json :=
  (Keyed.newest? Location.ofText location entry.written).bind fun name =>
    Keyed.last? name entry.written

/-- No location is written again in an older spelling with another value. -/
def Consistent (entry : Entry) : Prop :=
  ∀ location, entry.lastValue? location = entry.newestValue? location

/-- The override that a program states with the same keys and values in the same order. -/
def called (entry : Entry) : String × Requirements :=
  (entry.model, .ofMembers entry.written)

end Entry

/-! ## The text of a model file -/

namespace Json.Outline

/-- The members are written in this order under these names, and each value is read as this
one. -/
def Reads (depth : Nat) (members : List (Option String × Outline))
    (written : List (String × Json)) : Prop :=
  List.Forall₂ (fun member stated =>
    member.1 = some stated.1 ∧ member.2.keep? depth = some stated.2) members written

theorem keepMembers_of_reads {depth : Nat} {members : List (Option String × Outline)}
    {written : List (String × Json)} (reads : Reads depth members written) :
    keepMembers? depth members = some written := by
  induction reads with
  | nil => rfl
  | cons here _ inductionHypothesis =>
      rename_i member stated _ _ _
      rcases member with ⟨name, value⟩
      rcases here with ⟨named, kept⟩
      simp only at named kept
      simp [keepMembers?, named, kept, inductionHypothesis]

theorem members_of_reads {depth : Nat} {members : List (Option String × Outline)}
    {written : List (String × Json)} (reads : Reads depth members written) :
    Outline.members (depth + 1) (.object members true) = .ok written := by
  have kept := keepMembers_of_reads reads
  simp [Outline.members, kept]

end Json.Outline

open Json (Outline)

/-- An object that writes the entry.  The depth is what is left for the values of its members. -/
inductive Entry.Outlined (depth : Nat) : Outline -> Entry -> Prop where
  | predicateFirst {members : List (Option String × Outline)} {entry : Entry}
      (reads : Outline.Reads depth members entry.written) :
      Outlined depth (.object [(some "predicate", .object members true),
        (some "model", .string (some entry.model))] true) entry
  | modelFirst {members : List (Option String × Outline)} {entry : Entry}
      (reads : Outline.Reads depth members entry.written) :
      Outlined depth (.object [(some "model", .string (some entry.model)),
        (some "predicate", .object members true)] true) entry

namespace ModelDocument

/-- The text is an object with the member `overrides`, an array of an object for each entry. -/
def Writes (text : String) (entries : List Entry) : Prop :=
  ∃ items, Outline.ofText text = (.object [(some "overrides", .array items true)] true, false) ∧
    List.Forall₂ (Entry.Outlined (entryDepth - 1)) items entries

theorem ofOutline_of_outlined {depth : Nat} {outline : Outline} {entry : Entry}
    (outlined : Entry.Outlined depth outline entry) :
    Entry.ofOutline (depth + 1) outline = .ok entry := by
  cases outlined with
  | predicateFirst reads =>
      have members := Outline.members_of_reads reads
      simp [Entry.ofOutline, Entry.readMembers, members, Outline.text, Outline.close,
        Entry.Fields.complete, bind, Except.bind]
  | modelFirst reads =>
      have members := Outline.members_of_reads reads
      simp [Entry.ofOutline, Entry.readMembers, members, Outline.text, Outline.close,
        Entry.Fields.complete, bind, Except.bind]

theorem mapM_of_outlined {depth : Nat} {items : List Outline} {entries : List Entry}
    (outlined : List.Forall₂ (Entry.Outlined depth) items entries) :
    items.mapM (Entry.ofOutline (depth + 1)) = .ok entries := by
  induction outlined with
  | nil => rfl
  | cons here _ inductionHypothesis =>
      rw [List.mapM_cons, ofOutline_of_outlined here, inductionHypothesis]
      rfl

theorem read_of_writes {text : String} {entries : List Entry} (writes : Writes text entries) :
    read text = .ok entries := by
  rcases writes with ⟨items, outline, outlined⟩
  have listed : Entry.listOfOutline entryDepth (.array items true) = .ok entries := by
    have each := mapM_of_outlined outlined
    have depth : entryDepth - 1 + 1 = entryDepth := rfl
    rw [depth] at each
    simp [Entry.listOfOutline, each, Outline.close, bind, Except.bind]
  simp [read, Json.document, outline, ofOutline, readMembers, listed, Outline.close, bind,
    Except.bind]

end ModelDocument

/-! ## Requirements from a file and from a program -/

namespace Entry

theorem entries_stated (entry : Entry) :
    (Overrides.stated entry).2.entries =
      Keyed.gather ((Keyed.gather entry.written).map (Prod.map Location.ofText id)) := by
  have members : (Overrides.stated entry).2 = .ofMembers (Json.membersOf entry.written) := rfl
  rw [members, Requirements.entries_ofMembers, Json.membersOf_eq_gather]

theorem entries_called (entry : Entry) :
    entry.called.2.entries = Keyed.gather (entry.written.map (Prod.map Location.ofText id)) :=
  Requirements.entries_ofMembers entry.written

theorem stated_eq_called_iff (entry : Entry) :
    Overrides.stated entry = entry.called <-> entry.Consistent := by
  have models : Overrides.stated entry = entry.called <->
      (Overrides.stated entry).2.entries = entry.called.2.entries := by
    constructor
    · intro same
      rw [same]
    · intro same
      have requirements : (Overrides.stated entry).2 = entry.called.2 :=
        congrArg Requirements.mk same
      exact Prod.ext rfl requirements
  rw [models, entries_stated, entries_called]
  exact Keyed.gather_renamed_gather_eq_iff Location.ofText entry.written

theorem keys_stated (entry : Entry) :
    (Overrides.stated entry).2.entries.map Prod.fst = entry.called.2.entries.map Prod.fst := by
  rw [entries_stated, entries_called]
  exact Keyed.keys_gather_renamed_gather Location.ofText entry.written

theorem last_stated (entry : Entry) (location : Location) :
    Keyed.last? location (Overrides.stated entry).2.entries = entry.newestValue? location := by
  rw [entries_stated, Keyed.last_gather]
  exact Keyed.last_renamed_gather Location.ofText location entry.written

theorem last_called (entry : Entry) (location : Location) :
    Keyed.last? location entry.called.2.entries = entry.lastValue? location := by
  rw [entries_called]
  exact Keyed.last_gather location _

/-- Without a member written twice, nothing is merged before the spellings are. -/
theorem consistent_of_nodup {entry : Entry} (nodup : (entry.written.map Prod.fst).Nodup) :
    entry.Consistent := by
  have kept : Keyed.gather entry.written = entry.written := Keyed.gather_of_nodup nodup
  apply entry.stated_eq_called_iff.mp
  rw [Overrides.stated, members, Json.membersOf_eq_gather, kept]
  rfl

end Entry

namespace Overrides

theorem map_stated_of_consistent {entries : List Entry}
    (consistent : ∀ entry ∈ entries, entry.Consistent) :
    entries.map stated = entries.map Entry.called := by
  apply List.map_congr_left
  intro entry listed
  exact entry.stated_eq_called_iff.mpr (consistent entry listed)

/-- Overrides that a file lists are loaded as a program builds them from the same keys and values
in the same order, when the value that was written last for each location of an override is the
last one of its newest spelling.  Whatever is written, the requirements have the same keys in the
same order, and for each location the file gives the last value of the newest spelling and the
program gives the last value.  They are the same requirements exactly in the case above, which
includes that no member is written twice. -/
theorem loads_as_built (namespaces : Namespaces) {text : String} {entries : List Entry}
    (writes : ModelDocument.Writes text entries) :
    ((∀ entry ∈ entries, entry.Consistent) ->
      (load namespaces text).map Prod.fst =
        (build namespaces (entries.map Entry.called)).result.mapError .threshold) ∧
    (load namespaces text).map Prod.fst =
      (build namespaces (entries.map stated)).result.mapError .threshold ∧
    ∀ entry ∈ entries,
      (stated entry).2.entries.map Prod.fst = entry.called.2.entries.map Prod.fst ∧
      (∀ location,
        Keyed.last? location (stated entry).2.entries = entry.newestValue? location ∧
        Keyed.last? location entry.called.2.entries = entry.lastValue? location) ∧
      (stated entry = entry.called <-> entry.Consistent) ∧
      ((entry.written.map Prod.fst).Nodup -> entry.Consistent) := by
  have read : ModelDocument.read text = .ok entries := ModelDocument.read_of_writes writes
  have loaded := load_of_read namespaces read
  refine ⟨fun consistent => ?_, loaded, fun entry _ => ?_⟩
  · rw [loaded, map_stated_of_consistent consistent]
  · exact ⟨entry.keys_stated, fun location => ⟨entry.last_stated location,
      entry.last_called location⟩, entry.stated_eq_called_iff, Entry.consistent_of_nodup⟩

/-- The pull of a bow in three spellings, with two of them written again.  The file gives the
last value, as a program does, since it is in the spelling that was new last. -/
theorem loads_bow_as_built :
    let text := "\x7b\"overrides\":[\x7b\"model\":\"Item/Bow\",\"predicate\":\x7b" ++
      "\"pull\":1,\"PULL\":2,\"pull\":3,\"Pull\":4,\"Pull\":5\x7d\x7d]\x7d"
    let bow : Entry := ⟨[("pull", .ofInt 1), ("PULL", .ofInt 2), ("pull", .ofInt 3),
      ("Pull", .ofInt 4), ("Pull", .ofInt 5)], "Item/Bow"⟩
    ModelDocument.Writes text [bow] ∧ bow.Consistent ∧
      (load .standard text).map Prod.fst =
        (build .standard [bow.called]).result.mapError .threshold := by
  intro text bow
  let members : List (Option String × Outline) :=
    [(some "pull", .number (some (.whole 1))), (some "PULL", .number (some (.whole 2))),
      (some "pull", .number (some (.whole 3))), (some "Pull", .number (some (.whole 4))),
      (some "Pull", .number (some (.whole 5)))]
  let item : Outline := .object [(some "model", .string (some "Item/Bow")),
    (some "predicate", .object members true)] true
  let document : Outline := .object [(some "overrides", .array [item] true)] true
  have reads : Outline.Reads (ModelDocument.entryDepth - 1) members bow.written :=
    .cons ⟨rfl, rfl⟩ (.cons ⟨rfl, rfl⟩ (.cons ⟨rfl, rfl⟩ (.cons ⟨rfl, rfl⟩
      (.cons ⟨rfl, rfl⟩ .nil))))
  have tokens : Json.tokensOf text.toList = document.tokens := by decide +kernel
  have writes : ModelDocument.Writes text [bow] :=
    ⟨[item], Outline.ofText_of_tokens rfl tokens, .cons (.modelFirst reads) .nil⟩
  have consistent : bow.Consistent := bow.stated_eq_called_iff.mp rfl
  have spec := loads_as_built .standard writes
  exact ⟨writes, consistent, spec.1 (List.forall_mem_singleton.mpr consistent)⟩

/-- A file can give another value than a program: the value that is written again in the first
spelling takes the place of the first value, and the second spelling stays the newest. -/
theorem loads_pull_otherwise :
    let text := "\x7b\"overrides\":[\x7b\"predicate\":\x7b" ++
      "\"pull\":1,\"PULL\":2,\"pull\":3\x7d,\"model\":\"item/bow\"\x7d]\x7d"
    let bow : Entry := ⟨[("pull", .ofInt 1), ("PULL", .ofInt 2), ("pull", .ofInt 3)], "item/bow"⟩
    ModelDocument.Writes text [bow] ∧
      (load .standard text).map Prod.fst ≠
        (build .standard [bow.called]).result.mapError .threshold := by
  intro text bow
  let members : List (Option String × Outline) :=
    [(some "pull", .number (some (.whole 1))), (some "PULL", .number (some (.whole 2))),
      (some "pull", .number (some (.whole 3)))]
  let item : Outline := .object [(some "predicate", .object members true),
    (some "model", .string (some "item/bow"))] true
  let document : Outline := .object [(some "overrides", .array [item] true)] true
  have reads : Outline.Reads (ModelDocument.entryDepth - 1) members bow.written :=
    .cons ⟨rfl, rfl⟩ (.cons ⟨rfl, rfl⟩ (.cons ⟨rfl, rfl⟩ .nil))
  have tokens : Json.tokensOf text.toList = document.tokens := by decide +kernel
  have writes : ModelDocument.Writes text [bow] :=
    ⟨[item], Outline.ofText_of_tokens rfl tokens, .cons (.predicateFirst reads) .nil⟩
  refine ⟨writes, fun same => ?_⟩
  rw [load_of_read .standard (ModelDocument.read_of_writes writes)] at same
  -- The threshold is 2 on one side and 3 on the other.
  let thresholds (result : Except LoadFault Overrides) : List (List Threshold) :=
    result.toOption.toList.flatMap fun overrides => overrides.rules.map Rule.thresholds
  have bounds := congrArg thresholds same
  revert bounds
  decide +kernel

end Overrides
end ItemModels

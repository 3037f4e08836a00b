import ItemModels.Proofs.Override.Interpretation
import ItemModels.Proofs.Override.Loading
import ItemModels.Proofs.Quantity.Kind

namespace ItemModels

/-!
# What is noted about the entries of an override

The log of a rule has a group of events for each entry that is looked at, in the
order of the entries.  Work stops at the first entry that lacks a number, and what
is noted about an entry before it depends on the entry and on its place: before
the entry that decides the test, at it, or after it.

The walk does not know this place in advance.  What it carries along is a test as
soon as the deciding entry has been passed, and so the invariant of the walk says
that the draft has a test exactly if that place lies behind.

A test that was noted as malformed is the test of the rule, and so is the one that
stands for null values alone.  Neither holds for any item, and neither needs a
reading that succeeds to be refused.
-/

/-! ## Values that a kind of test can read -/

/-- The value states what a test of the kind asks. -/
def TestKind.Reads (value : Json) : TestKind -> Prop
  | .stacking | .damage =>
      (∃ written : Condition.Written, value = .string written.text) ∨
        (∃ written : Percentage.Written, value = .string written.text) ∨
          ∃ number, value = .number number
  | .nbt => True
  | .includeNbt | .includeEnchantment => ∃ names, value.Lists names
  | .enchantment =>
      ∃ members, value = .object members ∧ ∀ member ∈ members, ∃ level, member.2 = .number level
  | .name => ∃ text pattern, value = .string text ∧ Pattern.wholeName? text = some pattern
  | .day | .time => ∃ number, value = .number number

namespace Quantity

theorem isMalformed_ofJson_iff (value : Json) :
    (ofJson value).isMalformed = true <-> ¬ TestKind.stacking.Reads value := by
  have malformed : (ofJson value).isMalformed = true <-> ofJson value = .malformed := by
    cases ofJson value <;> simp [isMalformed]
  rw [malformed, ofJson_eq_malformed_iff, TestKind.Reads, not_or, not_or]
  simp only [not_exists]

end Quantity

namespace Test

theorem exists_levels_iff (value : Json) :
    (∃ levels, levels? value = some levels) <-> TestKind.enchantment.Reads value := by
  cases value with
  | object members =>
      have each := exists_mapM_iff (fun member : String × Json =>
        member.2.toInt64?.map fun level => (Location.ofText member.1, level.toInt16))
        (fun _ => True) members
      simp only [implies_true, and_true, Option.map_eq_some_iff, Json.toInt64_eq_some_iff] at each
      rw [levels?, each]
      simp [TestKind.Reads]
  | _ => simp [TestKind.Reads, levels?]

/-- A test is malformed when its kind cannot read the value. -/
theorem isMalformed_ofJson_iff (kind : TestKind) (value : Json) :
    (ofJson kind value).isMalformed = true <-> ¬ kind.Reads value := by
  cases kind with
  | stacking => exact Quantity.isMalformed_ofJson_iff value
  | damage => exact Quantity.isMalformed_ofJson_iff value
  | nbt => simp [ofJson, isMalformed, TestKind.Reads]
  | includeNbt =>
      simp only [ofJson, isMalformed, TestKind.Reads, ← Json.toTexts_eq_some_iff]
      cases value.toTexts? <;> simp
  | enchantment =>
      rw [← exists_levels_iff, ofJson, isMalformed]
      cases levels? value <;> simp
  | includeEnchantment =>
      simp only [ofJson, isMalformed, TestKind.Reads, names?, ← Json.toTexts_eq_some_iff]
      cases value.toTexts? <;> simp
  | name =>
      simp only [ofJson, isMalformed, TestKind.Reads, pattern?, ← Json.toText_eq_some_iff]
      cases value.toText? with
      | none => simp
      | some text => cases pattern : Pattern.wholeName? text <;> simp [pattern]
  | day => cases value <;> simp [ofJson, isMalformed, TestKind.Reads, Json.toInt64?]
  | time => cases value <;> simp [ofJson, isMalformed, TestKind.Reads, Json.toInt64?]

/-- A malformed test holds for no item, whether its readings fail or not. -/
theorem holds_ne_of_isMalformed {test : Test} (malformed : test.isMalformed = true)
    (source : Attributes) : test.holds source ≠ .value true := by
  have never {quantity : Quantity} (malformed : quantity.isMalformed = true) (value most : Int32) :
      quantity.holds value most = false := by
    cases quantity <;> first | rfl | cases malformed
  cases test with
  | stacking quantity =>
      cases count : source.count <;> cases most : source.maxCount <;>
        simp [holds, bind, count, most, never malformed]
  | damage quantity =>
      cases damage : source.damage <;> cases most : source.maxDamage <;>
        simp [holds, bind, damage, most, never malformed]
  | includeNbt names => simp [Option.isNone_iff_eq_none.mp malformed, holds]
  | enchantment levels => simp [Option.isNone_iff_eq_none.mp malformed, holds]
  | includeEnchantment names => simp [Option.isNone_iff_eq_none.mp malformed, holds]
  | name pattern => simp [Option.isNone_iff_eq_none.mp malformed, holds]
  | day threshold => simp [Option.isNone_iff_eq_none.mp malformed, holds]
  | time threshold => simp [Option.isNone_iff_eq_none.mp malformed, holds]
  | _ => cases malformed

end Test

/-! ## One entry -/

/-- What is noted about the entry that decides the test. -/
inductive Noted (entry : Location × Json) : List Notice -> Prop where
  | unknown (unnamed : ∀ kind : TestKind, Text.sameLetters kind.title entry.1.path = false) :
      Noted entry [.unknownTest]
  | read (kind : TestKind) (named : Text.sameLetters kind.title entry.1.path = true)
      (reads : kind.Reads entry.2) : Noted entry []
  | malformed (kind : TestKind) (named : Text.sameLetters kind.title entry.1.path = true)
      (unread : ¬ kind.Reads entry.2) (noText : kind = .name -> ∀ text, entry.2 ≠ .string text) :
      Noted entry [.malformed entry.2]
  | invalidPattern (named : Text.sameLetters TestKind.name.title entry.1.path = true)
      (text : String) (stated : entry.2 = .string text)
      (invalid : Pattern.wholeName? text = none) :
      Noted entry [.invalidPattern, .malformed entry.2]

/-- What is noted about an entry at some place, when the entry at another place decides the
test. -/
inductive NotedAt (namespaces : Namespaces) (deciding place : Nat) (entry : Location × Json) :
    List Notice -> Prop where
  | dropped (role : namespaces.role entry.1 = .dropped) :
      NotedAt namespaces deciding place entry [.legacyIgnored]
  | threshold (role : namespaces.role entry.1 = .threshold) :
      NotedAt namespaces deciding place entry []
  | skipped (role : namespaces.role entry.1 = .test) (early : place < deciding) :
      NotedAt namespaces deciding place entry [.nullSkipped]
  | decides {notices : List Notice} (role : namespaces.role entry.1 = .test)
      (here : place = deciding) (noted : Noted entry notices) :
      NotedAt namespaces deciding place entry notices
  | ignored (role : namespaces.role entry.1 = .test) (late : deciding < place) :
      NotedAt namespaces deciding place entry []

instance (namespaces : Namespaces) : DecidablePred (Requirements.Decides namespaces) :=
  fun entry => decidable_of_iff _ (Rule.states_and_not_null_iff namespaces entry)

namespace Requirements

/-- The place of the first entry that decides a test, or the number of entries. -/
def decidingPlace (namespaces : Namespaces) (entries : List (Location × Json)) : Nat :=
  entries.findIdx fun entry => decide (Decides namespaces entry)

/-- The entries before the first one that lacks a number. -/
def walked (namespaces : Namespaces) (entries : List (Location × Json)) :
    List (Location × Json) :=
  entries.take (entries.findIdx fun entry => decide (namespaces.LacksNumber entry))

end Requirements

namespace Rule

theorem statesInvalidPattern_iff (kind : TestKind) (value : Json) :
    statesInvalidPattern kind value = true <->
      kind = .name ∧ ∃ text, value = .string text ∧ Pattern.wholeName? text = none := by
  simp only [statesInvalidPattern, Bool.and_eq_true, beq_iff_eq, and_assoc, Test.pattern?,
    ← Json.toText_eq_some_iff]
  cases value.toText? <;> simp

theorem noted_compileTest (entry : Location × Json) :
    Noted entry (compileTest entry.1 entry.2).2 := by
  cases found : TestKind.ofPath? entry.1.path with
  | none =>
      simp only [compileTest, found]
      refine .unknown fun kind => ?_
      rw [← Bool.not_eq_true, ← TestKind.ofPath_eq_some_iff, found]
      rintro ⟨⟩
  | some kind =>
      have named := (TestKind.ofPath_eq_some_iff _ kind).mp found
      have malformed := Test.isMalformed_ofJson_iff kind entry.2
      have invalid := statesInvalidPattern_iff kind entry.2
      simp only [compileTest, found]
      by_cases states : statesInvalidPattern kind entry.2 = true
      · rcases invalid.mp states with ⟨rfl, text, stated, fails⟩
        have unread : ¬ TestKind.name.Reads entry.2 := by
          rintro ⟨other, pattern, same, reads⟩
          cases stated.symm.trans same
          cases fails.symm.trans reads
        rw [if_pos states, if_pos (malformed.mpr unread)]
        exact .invalidPattern named text stated fails
      · rw [if_neg states, List.nil_append]
        split_ifs with unread
        · refine .malformed kind named (malformed.mp unread) ?_
          rintro rfl text stated
          refine malformed.mp unread ?_
          cases pattern : Pattern.wholeName? text with
          | none => exact absurd (invalid.mpr ⟨rfl, text, stated, pattern⟩) states
          | some pattern' => exact ⟨text, pattern', stated, pattern⟩
        · exact .read kind named (not_not.mp (mt malformed.mpr unread))

/-- The draft has a test exactly if the place of the entry that decides it lies behind. -/
def Draft.Awaits (draft : Draft) (namespaces : Namespaces) (deciding place : Nat)
    (rest : List (Location × Json)) : Prop :=
  (draft.test.isSome = true ∧ deciding < place) ∨
    (draft.test = none ∧ deciding = place + Requirements.decidingPlace namespaces rest)

/-- The events that note something about an entry. -/
def events (model key : Location) (notices : List Notice) : List Event :=
  notices.map fun notice => { model, key, notice }

theorem notedAt_compileEntry {namespaces : Namespaces} {draft : Draft} {deciding place : Nat}
    {entry : Location × Json} {rest : List (Location × Json)} (model : Location)
    (awaits : draft.Awaits namespaces deciding place (entry :: rest)) :
    ∃ notices, NotedAt namespaces deciding place entry notices ∧
      (compileEntry namespaces model draft entry.1 entry.2).log = events model entry.1 notices := by
  cases role : namespaces.role entry.1 with
  | dropped => exact ⟨_, .dropped role, by simp [compileEntry, role, Logged.ok, events]⟩
  | threshold =>
      refine ⟨_, .threshold role, ?_⟩
      cases least : least? entry.2 <;> simp [compileEntry, role, Logged.ok, events, least]
  | test =>
      rcases awaits with ⟨tested, behind⟩ | ⟨untested, ahead⟩
      · exact ⟨_, .ignored role behind, by simp [compileEntry, role, Logged.ok, events, tested]⟩
      · rw [Requirements.decidingPlace, List.findIdx_cons] at ahead
        have decides := states_and_not_null_iff namespaces entry
        cases null : entry.2.isNull with
        | true =>
            have undecided : ¬ Requirements.Decides namespaces entry := by
              rw [← decides, null]
              simp
            rw [decide_eq_false undecided, cond_false] at ahead
            refine ⟨_, .skipped role (by omega), ?_⟩
            simp [compileEntry, role, Logged.ok, events, untested, null]
        | false =>
            have decided : Requirements.Decides namespaces entry := by
              rw [← decides, null]
              simp [Namespaces.statesTest, role]
            rw [decide_eq_true decided, cond_true] at ahead
            refine ⟨_, .decides role ahead.symm (noted_compileTest entry), ?_⟩
            simp [compileEntry, role, Logged.ok, events, untested, null]

/-! ## All entries -/

theorem Draft.Awaits.extend {namespaces : Namespaces} {draft : Draft} {deciding place : Nat}
    {entry : Location × Json} {rest : List (Location × Json)}
    (awaits : draft.Awaits namespaces deciding place (entry :: rest)) :
    (draft.extend namespaces [entry]).Awaits namespaces deciding (place + 1) rest := by
  rcases awaits with ⟨tested, behind⟩ | ⟨untested, ahead⟩
  · refine .inl ⟨?_, Nat.lt_succ_of_lt behind⟩
    rw [Draft.extend, Option.isSome_or, tested, Bool.true_or]
  · rw [Requirements.decidingPlace, List.findIdx_cons] at ahead
    have found : namespaces.decidingEntry? [entry] =
        if Requirements.Decides namespaces entry then some entry else none := by
      simp only [Namespaces.decidingEntry?, List.find?_singleton, states_and_not_null_iff]
    by_cases decides : Requirements.Decides namespaces entry
    · rw [decide_eq_true decides, cond_true] at ahead
      refine .inl ⟨?_, by omega⟩
      rw [Draft.extend, untested, found, if_pos decides]
      rfl
    · rw [decide_eq_false decides, cond_false] at ahead
      refine .inr ⟨?_, by rw [Requirements.decidingPlace]; omega⟩
      rw [Draft.extend, untested, found, if_neg decides]
      rfl

/-- The events are what is noted about the entry at its place. -/
def EventsAt (namespaces : Namespaces) (model : Location) (deciding : Nat)
    (placed : (Location × Json) × Nat) (group : List Event) : Prop :=
  ∃ notices, NotedAt namespaces deciding placed.2 placed.1 notices ∧
    group = events model placed.1.1 notices

theorem log_compileEntries {namespaces : Namespaces} {draft : Draft} {deciding place : Nat}
    (model : Location) {entries : List (Location × Json)}
    (awaits : draft.Awaits namespaces deciding place entries) :
    ∃ groups, List.Forall₂ (EventsAt namespaces model deciding)
        ((Requirements.walked namespaces entries).zipIdx place) groups ∧
      (compileEntries namespaces model draft entries).log = groups.flatten := by
  induction entries generalizing draft place with
  | nil => exact ⟨[], .nil, rfl⟩
  | cons entry rest inductionHypothesis =>
      rcases entry with ⟨key, value⟩
      have step := result_compileEntry namespaces model draft key value
      rcases notedAt_compileEntry model awaits with ⟨notices, noted, log⟩
      by_cases lacks : namespaces.LacksNumber (key, value)
      · rw [(namespaces.invalid_eq_true_iff _).mpr lacks, if_pos rfl] at step
        have stopped : Requirements.walked namespaces ((key, value) :: rest) = [] := by
          simp [Requirements.walked, List.findIdx_cons, lacks]
        have least : least? value = none :=
          Option.isNone_iff_eq_none.mp ((Namespaces.least_isNone_iff value).mpr lacks.2)
        refine ⟨[], by rw [stopped]; exact .nil, ?_⟩
        simp [compileEntries, Logged.bind, compileEntry, lacks.1, least]
      · rw [(namespaces.invalid_eq_false_iff _).mpr lacks, if_neg Bool.false_ne_true] at step
        have more : Requirements.walked namespaces ((key, value) :: rest) =
            (key, value) :: Requirements.walked namespaces rest := by
          simp [Requirements.walked, List.findIdx_cons, lacks]
        rcases inductionHypothesis awaits.extend with ⟨groups, each, later⟩
        refine ⟨events model key notices :: groups, ?_, ?_⟩
        · rw [more, List.zipIdx_cons]
          exact .cons ⟨notices, noted, rfl⟩ each
        · simp only [compileEntries, Logged.bind, step, List.flatten_cons]
          rw [later, ← log]

/-- The log has a group of events for each entry before the first that lacks a number. -/
theorem log_compile (model : String) (requirements : Requirements) (namespaces : Namespaces) :
    ∃ groups, List.Forall₂
        (EventsAt namespaces (Location.ofText model)
          (Requirements.decidingPlace namespaces requirements.entries))
        (Requirements.walked namespaces requirements.entries).zipIdx groups ∧
      (compile model requirements namespaces).log = groups.flatten := by
  have awaits : Draft.start.Awaits namespaces
      (Requirements.decidingPlace namespaces requirements.entries) 0 requirements.entries :=
    .inr ⟨rfl, (Nat.zero_add _).symm⟩
  rcases log_compileEntries (Location.ofText model) awaits with ⟨groups, each, log⟩
  refine ⟨groups, each, ?_⟩
  rw [← log, compile, Logged.bind]
  cases result : (compileEntries namespaces (Location.ofText model) Draft.start
    requirements.entries).result with
  | error fault => rfl
  | ok draft => exact List.append_nil _

/-! ## Rules that apply to nothing -/

theorem isMalformed_of_noted {entry : Location × Json} {notices : List Notice} {value : Json}
    (noted : Noted entry notices) (mem : .malformed value ∈ notices) :
    (entryTest entry).isMalformed = true := by
  have malformed (kind : TestKind) (named : Text.sameLetters kind.title entry.1.path = true)
      (unread : ¬ kind.Reads entry.2) : (entryTest entry).isMalformed = true := by
    simp only [entryTest, compileTest, (TestKind.ofPath_eq_some_iff _ kind).mpr named]
    exact (Test.isMalformed_ofJson_iff kind entry.2).mpr unread
  cases noted with
  | unknown => simp at mem
  | read => cases mem
  | malformed kind named unread => exact malformed kind named unread
  | invalidPattern named text stated invalid =>
      refine malformed .name named ?_
      rintro ⟨other, pattern, same, reads⟩
      cases stated.symm.trans same
      cases invalid.symm.trans reads

/-- Only about the entry that decides the test it is noted that its value is malformed. -/
theorem decides_of_notedAt {namespaces : Namespaces} {deciding place : Nat}
    {entry : Location × Json} {notices : List Notice} {value : Json}
    (noted : NotedAt namespaces deciding place entry notices)
    (mem : .malformed value ∈ notices) :
    place = deciding ∧ (entryTest entry).isMalformed = true := by
  cases noted with
  | dropped => simp at mem
  | threshold => cases mem
  | skipped => simp at mem
  | decides _ here noted => exact ⟨here, isMalformed_of_noted noted mem⟩
  | ignored => cases mem

theorem decidingEntry_of_place {namespaces : Namespaces} {entries : List (Location × Json)}
    {entry : Location × Json}
    (found : entries[Requirements.decidingPlace namespaces entries]? = some entry) :
    namespaces.decidingEntry? entries = some entry := by
  have same : (fun entry : Location × Json => namespaces.statesTest entry.1 && !entry.2.isNull) =
      fun entry => decide (Requirements.Decides namespaces entry) :=
    funext fun entry => Bool.eq_iff_iff.mpr
      ((states_and_not_null_iff namespaces entry).trans decide_eq_true_iff.symm)
  rcases List.getElem?_eq_some_iff.mp found with ⟨inside, rfl⟩
  have first := (List.findIdx_eq (p := fun entry => decide (Requirements.Decides namespaces entry))
    inside).mp rfl
  rw [Namespaces.decidingEntry?, same, List.find?_eq_some_iff_getElem]
  refine ⟨first.1, _, inside, rfl, fun earlier before => ?_⟩
  rw [first.2 earlier before]
  rfl

theorem exists_of_forall₂_right {First Second : Type} {related : First -> Second -> Prop}
    {firsts : List First} {seconds : List Second} (each : List.Forall₂ related firsts seconds)
    {second : Second} (member : second ∈ seconds) : ∃ first ∈ firsts, related first second := by
  induction each with
  | nil => cases member
  | cons head _ inductionHypothesis =>
      rcases List.mem_cons.mp member with rfl | later
      · exact ⟨_, List.mem_cons_self, head⟩
      · rcases inductionHypothesis later with ⟨first, listed, holds⟩
        exact ⟨first, List.mem_cons_of_mem _ listed, holds⟩

/-- A rule with a malformed value in its log has a malformed test. -/
theorem isMalformed_of_log {model : String} {requirements : Requirements}
    {namespaces : Namespaces} {event : Event} {value : Json}
    (logged : event ∈ (compile model requirements namespaces).log)
    (notice : event.notice = .malformed value) :
    ∃ entry, namespaces.decidingEntry? requirements.entries = some entry ∧
      (entryTest entry).isMalformed = true := by
  rcases log_compile model requirements namespaces with ⟨groups, each, log⟩
  rw [log, List.mem_flatten] at logged
  rcases logged with ⟨group, member, inside⟩
  rcases exists_of_forall₂_right each member with ⟨⟨entry, place⟩, placed, notices, noted, rfl⟩
  rcases List.mem_map.mp inside with ⟨_, mem, rfl⟩
  cases notice
  rcases decides_of_notedAt noted mem with ⟨rfl, malformed⟩
  have walked := List.mk_mem_zipIdx_iff_getElem?.mp placed
  rw [Requirements.walked, List.getElem?_take] at walked
  split_ifs at walked
  exact ⟨entry, decidingEntry_of_place walked, malformed⟩

theorem test_ofEntries_of_some {namespaces : Namespaces} {entries : List (Location × Json)}
    {entry : Location × Json} (model : Location)
    (deciding : namespaces.decidingEntry? entries = some entry) :
    (ofEntries namespaces model entries).test = some (entryTest entry) := by
  simp [ofEntries, Draft.finalTest, Draft.extend, Draft.start, deciding]

/-- Null values alone make the test that never holds. -/
theorem test_ofEntries_of_null {namespaces : Namespaces} {entries : List (Location × Json)}
    (model : Location) (stated : ∃ entry ∈ entries, namespaces.role entry.1 = .test)
    (null : ∀ entry ∈ entries, namespaces.role entry.1 = .test -> entry.2 = .null) :
    (ofEntries namespaces model entries).test = some .never := by
  have undecided : namespaces.decidingEntry? entries = none := by
    rw [Namespaces.decidingEntry?, List.find?_eq_none]
    intro entry member decides
    have decided := (states_and_not_null_iff namespaces entry).mp decides
    exact decided.2 (null entry member decided.1)
  have states : entries.any (fun entry => namespaces.statesTest entry.1) = true := by
    simpa [Namespaces.statesTest] using stated
  simp [ofEntries, Draft.finalTest, Draft.extend, Draft.start, undecided, states]

theorem applies_of_test {rule : Rule} {test : Test} {source : Attributes}
    (has : rule.test = some test) (fails : test.holds source ≠ .value true) :
    rule.applies source = false := by
  rw [← Bool.not_eq_true, applies_eq_true_iff]
  exact fun applies => fails (applies.1 test has)

/-- The log notes exactly what was left out or will never hold: there is a group of events for each
entry before the first one that lacks a number, and a rule with a malformed value in its log, or
with null values alone under the keys of tests, applies to no item. -/
theorem log_notes_exactly (model : String) (requirements : Requirements)
    (namespaces : Namespaces) :
    (∃ groups, List.Forall₂
        (EventsAt namespaces (Location.ofText model)
          (Requirements.decidingPlace namespaces requirements.entries))
        (Requirements.walked namespaces requirements.entries).zipIdx groups ∧
      (compile model requirements namespaces).log = groups.flatten) ∧
    ∀ rule, (compile model requirements namespaces).result = .ok rule ->
      (∃ event ∈ (compile model requirements namespaces).log,
          ∃ value, event.notice = .malformed value) ∨
        ((∃ entry ∈ requirements.entries, namespaces.role entry.1 = .test) ∧
          ∀ entry ∈ requirements.entries, namespaces.role entry.1 = .test -> entry.2 = .null) ->
      ∀ source, rule.applies source = false := by
  refine ⟨log_compile model requirements namespaces, ?_⟩
  intro rule made never source
  have result := result_compile model requirements namespaces
  rw [made] at result
  cases valid : requirements.entries.find? namespaces.invalid with
  | some entry =>
      rw [valid] at result
      cases result
  | none =>
      rw [valid] at result
      cases result
      rcases never with ⟨event, logged, value, notice⟩ | ⟨stated, null⟩
      · rcases isMalformed_of_log logged notice with ⟨entry, deciding, malformed⟩
        exact applies_of_test (test_ofEntries_of_some _ deciding)
          (Test.holds_ne_of_isMalformed malformed source)
      · refine applies_of_test (test_ofEntries_of_null _ stated null) ?_
        rintro ⟨⟩

/-- Requirements with a null value, a dropped key, a value that is no condition, and two more
entries, about which nothing is noted. -/
def manyRequired : Requirements :=
  .ofMembers [("ios:name", .null), ("sti:damage", .ofInt 3), ("ios:stacking", .string "many"),
    ("ios:day", .null), ("pulling", .ofInt 1)]

/-- Three entries are noted, and the rule applies to no item. -/
theorem log_notes_many :
    (compile "item/pile" manyRequired .standard).log.map
        (fun event => (event.key.toText, event.notice.message)) =
      [("ios:name", "skipping null predicate"),
       ("sti:damage", "legacy namespace only supports stacking"),
       ("ios:stacking", "malformed predicate; it never matches")] ∧
      ∃ rule, (compile "item/pile" manyRequired .standard).result = .ok rule ∧
        ∀ source, rule.applies source = false := by
  have valid : manyRequired.entries.find? Namespaces.standard.invalid = none := by decide +kernel
  have made := result_compile_of_valid "item/pile" valid
  have malformed : (compile "item/pile" manyRequired .standard).log.any
      (fun event => event.notice.value?.isSome) = true := by decide +kernel
  refine ⟨by decide +kernel, _, made, (log_notes_exactly _ _ _).2 _ made (.inl ?_)⟩
  rcases List.any_eq_true.mp malformed with ⟨event, logged, shown⟩
  refine ⟨event, logged, ?_⟩
  cases notice : event.notice with
  | malformed value => exact ⟨value, rfl⟩
  | _ => simp [notice, Notice.value?] at shown

end Rule
end ItemModels

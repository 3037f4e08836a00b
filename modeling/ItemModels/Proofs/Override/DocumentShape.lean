import ItemModels.Override.Overrides
import ItemModels.Proofs.Json.Keeping

namespace ItemModels

/-!
# The shape of model files

A model file is an object with an optional array of entries, and an entry is an
object with a `predicate` object and a `model` string.  Every text of this shape
is read, whatever other members it has, as long as no member of a known name is
repeated and what is kept can be kept.

A record may also be written as the array of its fields, and this is the only
other way to write it.  A reader takes a field once: what a second member of the
same name does is said by `Takes`, which goes through the values of one name in
order.
-/

open Json (Outline Fault)

/-- The values of the members with a name, in their order. -/
def Json.Outline.under (name : String) (members : List (Option String × Outline)) :
    List Outline :=
  (members.filter fun member => member.1 = some name).map Prod.snd

/-- The names of all members have only characters. -/
def Json.Outline.Named (members : List (Option String × Outline)) : Prop :=
  ∀ member ∈ members, member.1 ≠ none

namespace Entry

/-- The `predicate` of an entry: an object that can be kept. -/
def StatesPredicate (depth : Nat) (value : Outline) : Prop :=
  (∃ members, value = .object members true) ∧ value.Fits depth

/-- The `model` of an entry: a string. -/
def StatesModel (value : Outline) : Prop :=
  ∃ text, value = .string (some text)

/-- An entry written as an object.  The depth is what is left inside it. -/
inductive InObject (depth : Nat) : Outline -> Prop where
  | mk {members : List (Option String × Outline)} {predicate model : Outline}
      (named : Outline.Named members) (predicates : Outline.under "predicate" members = [predicate])
      (statesPredicate : StatesPredicate depth predicate)
      (models : Outline.under "model" members = [model]) (statesModel : StatesModel model) :
      InObject depth (.object members true)

/-- An entry written as the array of its fields. -/
inductive InArray (depth : Nat) : Outline -> Prop where
  | mk {predicate model : Outline} (statesPredicate : StatesPredicate depth predicate)
      (statesModel : StatesModel model) : InArray depth (.array [predicate, model] true)

end Entry

namespace ModelDocument

/-- The `overrides` of a model file: an array of entries of some form. -/
def StatesOverrides (form : Outline -> Prop) (value : Outline) : Prop :=
  ∃ entries, value = .array entries true ∧ ∀ entry ∈ entries, form entry

/-- A model file written as an object, with entries of some form. -/
inductive InObject (form : Outline -> Prop) : Outline -> Prop where
  | absent {members : List (Option String × Outline)} (named : Outline.Named members)
      (missing : Outline.under "overrides" members = []) : InObject form (.object members true)
  | present {members : List (Option String × Outline)} {overrides : Outline}
      (named : Outline.Named members) (one : Outline.under "overrides" members = [overrides])
      (states : StatesOverrides form overrides) : InObject form (.object members true)

/-- A model file written as the array of its fields, with entries of some form. -/
inductive InArray (form : Outline -> Prop) : Outline -> Prop where
  | absent : InArray form (.array [] true)
  | present {overrides : Outline} (states : StatesOverrides form overrides) :
      InArray form (.array [overrides] true)

/-- The documented shape: objects throughout. -/
def Documented (document : Outline) : Prop :=
  InObject (Entry.InObject entryDepth) document

/-- An entry in one of its two forms. -/
def EntryForm (entry : Outline) : Prop :=
  Entry.InObject entryDepth entry ∨ Entry.InArray entryDepth entry

/-- Each record is an object or the array of its fields. -/
def Admitted (document : Outline) : Prop :=
  InObject EntryForm document ∨ InArray EntryForm document

end ModelDocument

/-! ## Steps of readers -/

theorem bind_eq_ok_iff {First Second : Type} (read : Except Fault First)
    (next : First -> Except Fault Second) (result : Second) :
    (read >>= next) = .ok result <-> ∃ value, read = .ok value ∧ next value = .ok result := by
  cases read with
  | error fault => exact ⟨by rintro ⟨⟩, by rintro ⟨_, ⟨⟩, _⟩⟩
  | ok value => exact ⟨fun found => ⟨value, rfl, found⟩, by rintro ⟨_, ⟨⟩, found⟩; exact found⟩

theorem exists_mapM_ok_iff {First Second : Type} (read : First -> Except Fault Second)
    (items : List First) :
    (∃ results, items.mapM read = .ok results) <-> ∀ item ∈ items, ∃ result, read item = .ok result := by
  induction items with
  | nil => exact ⟨by simp, fun _ => ⟨[], rfl⟩⟩
  | cons item rest inductionHypothesis =>
      rw [List.forall_mem_cons, ← inductionHypothesis]
      simp only [List.mapM_cons, bind_eq_ok_iff]
      constructor
      · rintro ⟨_, result, here, results, later, _⟩
        exact ⟨⟨result, here⟩, results, later⟩
      · rintro ⟨⟨result, here⟩, results, later⟩
        exact ⟨_, result, here, results, later, rfl⟩

namespace Json.Outline

theorem close_eq_ok_iff (closed : Bool) (done : Unit) :
    close closed = .ok done <-> closed = true := by
  cases closed <;> simp [close]

theorem skip_eq_ok_iff (outline : Outline) (done : Unit) :
    outline.skip = .ok done <-> outline.wellFormed = true := by
  cases formed : outline.wellFormed <;> simp [skip, formed]

theorem text_eq_ok_iff (outline : Outline) (letters : String) :
    outline.text = .ok letters <-> outline = .string (some letters) := by
  constructor
  · intro read
    cases outline with
    | string text =>
        cases text with
        | none => cases read
        | some other =>
            cases read
            rfl
    | _ => cases read
  · rintro rfl
    rfl

theorem named_cons_iff (member : Option String × Outline)
    (rest : List (Option String × Outline)) :
    Named (member :: rest) <-> member.1 ≠ none ∧ Named rest :=
  List.forall_mem_cons

theorem under_cons_same (name : String) (value : Outline)
    (rest : List (Option String × Outline)) :
    under name ((some name, value) :: rest) = value :: under name rest := by
  simp [under]

theorem under_cons_other {name : String} {member : Option String × Outline}
    (other : member.1 ≠ some name) (rest : List (Option String × Outline)) :
    under name (member :: rest) = under name rest := by
  simp [under, other]

/-- A field takes no value and stays, or takes its only value if it has none yet. -/
def Takes {Value : Type} (read : Outline -> Except Fault Value) (old new : Option Value) :
    List Outline -> Prop
  | [] => new = old
  | [value] => old = none ∧ ∃ result, read value = .ok result ∧ new = some result
  | _ :: _ :: _ => False

theorem takes_cons_iff {Value : Type} (read : Outline -> Except Fault Value)
    (old new : Option Value) (value : Outline) (rest : List Outline) :
    Takes read old new (value :: rest) <->
      old = none ∧ ∃ result, read value = .ok result ∧ Takes read (some result) new rest := by
  cases rest with
  | nil => rfl
  | cons next others =>
      cases others with
      | nil => simp [Takes]
      | cons => simp [Takes]

/-- A field that had no value has one at the end if there was one value and it could be read. -/
theorem takes_some_iff {Value : Type} (read : Outline -> Except Fault Value)
    (values : List Outline) :
    (∃ result, Takes read none (some result) values) <->
      ∃ value, values = [value] ∧ ∃ result, read value = .ok result := by
  cases values with
  | nil => simp [Takes]
  | cons value rest =>
      cases rest with
      | nil => simp [Takes]
      | cons => simp [Takes]

/-- What becomes of a record that goes on with a value of one of its fields. -/
theorem field_eq_ok_iff {Value Record : Type} {read : Outline -> Except Fault Value}
    {old new : Option Value} {value : Outline} {rest : List Outline} {repeated : Fault}
    {next : Value -> Except Fault Record} {record : Record} {others : Prop}
    (formed : ∀ result, read value = .ok result -> value.wellFormed = true)
    (later : ∀ result, next result = .ok record <-> others ∧ Takes read (some result) new rest) :
    (if old.isSome then .error repeated else read value >>= next) = .ok record <->
      (value.wellFormed = true ∧ others) ∧ Takes read old new (value :: rest) := by
  rw [takes_cons_iff]
  cases old with
  | some => simp
  | none =>
      rw [Option.isSome_none, if_neg Bool.false_ne_true, bind_eq_ok_iff]
      constructor
      · rintro ⟨result, found, following⟩
        rcases (later result).mp following with ⟨other, taken⟩
        exact ⟨⟨formed result found, other⟩, rfl, result, found, taken⟩
      · rintro ⟨⟨_, other⟩, _, result, found, taken⟩
        exact ⟨result, found, (later result).mpr ⟨other, taken⟩⟩

/-- What becomes of a record that passes over a value. -/
theorem skip_bind_eq_ok_iff {Record : Type} (value : Outline) (next : Except Fault Record)
    (record : Record) :
    (value.skip >>= fun _ => next) = .ok record <->
      value.wellFormed = true ∧ next = .ok record := by
  rw [bind_eq_ok_iff]
  constructor
  · rintro ⟨done, passed, following⟩
    exact ⟨(skip_eq_ok_iff value done).mp passed, following⟩
  · rintro ⟨formed, following⟩
    exact ⟨(), (skip_eq_ok_iff value ()).mpr formed, following⟩

end Json.Outline

/-! ## Entries -/

namespace Entry

open Json.Outline (Takes takes_some_iff under under_cons_same under_cons_other Named named_cons_iff
  field_eq_ok_iff skip_bind_eq_ok_iff text_eq_ok_iff close_eq_ok_iff exists_members_iff)

theorem wellFormed_of_members {depth : Nat} {value : Outline} {written : List (String × Json)}
    (read : value.members depth = .ok written) : value.wellFormed = true :=
  ((exists_members_iff depth value).mp ⟨written, read⟩).2.wellFormed

theorem wellFormed_of_text {value : Outline} {text : String} (read : value.text = .ok text) :
    value.wellFormed = true := by
  rw [(text_eq_ok_iff value text).mp read]
  rfl

/-- Each of the two fields takes the values of its name, and other members are passed over. -/
theorem readMembers_eq_ok_iff (depth : Nat) (fields final : Fields)
    (members : List (Option String × Outline)) :
    readMembers depth fields members = .ok final <->
      Named members ∧ (∀ member ∈ members, member.2.wellFormed = true) ∧
        Takes (Outline.members depth) fields.written final.written (under "predicate" members) ∧
        Takes Outline.text fields.model final.model (under "model" members) := by
  induction members generalizing fields with
  | nil =>
      rcases fields with ⟨written, model⟩
      rcases final with ⟨finalWritten, finalModel⟩
      simp only [readMembers, Named, under, Takes, List.filter_nil, List.map_nil, Except.ok.injEq,
        Fields.mk.injEq, List.not_mem_nil, false_implies, implies_true, true_and]
      exact and_congr eq_comm eq_comm
  | cons member rest inductionHypothesis =>
      rcases member with ⟨name, value⟩
      rw [named_cons_iff, List.forall_mem_cons]
      cases name with
      | none => exact ⟨by rintro ⟨⟩, fun stated => absurd rfl stated.1.1⟩
      | some name =>
          have known : some name ≠ none := by simp
          by_cases predicate : name = "predicate"
          · subst predicate
            have later (written : List (String × Json)) :
                readMembers depth { fields with written := some written } rest = .ok final <->
                  (Named rest ∧ (∀ member ∈ rest, member.2.wellFormed = true) ∧
                    Takes Outline.text fields.model final.model (under "model" rest)) ∧
                  Takes (Outline.members depth) (some written) final.written
                    (under "predicate" rest) := by
              rw [inductionHypothesis]
              tauto
            rw [under_cons_same, under_cons_other (by simp), readMembers,
              field_eq_ok_iff (fun _ => wellFormed_of_members) later]
            tauto
          · by_cases model : name = "model"
            · subst model
              have later (title : String) :
                  readMembers depth { fields with model := some title } rest = .ok final <->
                    (Named rest ∧ (∀ member ∈ rest, member.2.wellFormed = true) ∧
                      Takes (Outline.members depth) fields.written final.written
                        (under "predicate" rest)) ∧
                    Takes Outline.text (some title) final.model (under "model" rest) := by
                rw [inductionHypothesis]
                tauto
              rw [under_cons_same, under_cons_other (by simp), readMembers,
                field_eq_ok_iff (fun _ => wellFormed_of_text) later]
              tauto
            · have passed : readMembers depth fields ((some name, value) :: rest) =
                  value.skip >>= fun _ => readMembers depth fields rest := by
                rw [readMembers] <;> assumption
              rw [under_cons_other (by simpa using predicate), under_cons_other (by simpa using model),
                passed, skip_bind_eq_ok_iff, inductionHypothesis]
              tauto

theorem statesPredicate_iff (depth : Nat) (value : Outline) :
    StatesPredicate depth value <-> ∃ written, value.members depth = .ok written :=
  (exists_members_iff depth value).symm

theorem statesModel_iff (value : Outline) : StatesModel value <-> ∃ text, value.text = .ok text := by
  simp only [StatesModel, text_eq_ok_iff]

theorem exists_ofObject_iff (depth : Nat) (members : List (Option String × Outline))
    (closed : Bool) :
    (∃ entry, ofOutline depth (.object members closed) = .ok entry) <->
      (Outline.object members closed).wellFormed = true ∧
        InObject depth (.object members closed) := by
  simp only [ofOutline, bind_eq_ok_iff, readMembers_eq_ok_iff, close_eq_ok_iff,
    Json.Outline.wellFormed_object_iff]
  constructor
  · rintro ⟨entry, ⟨written, model⟩, ⟨named, formed, predicates, models⟩, _, rfl, complete⟩
    refine ⟨⟨formed, rfl⟩, ?_⟩
    cases written with
    | none => cases complete
    | some written =>
        cases model with
        | none => cases complete
        | some model =>
            rcases (takes_some_iff _ _).mp ⟨written, predicates⟩ with ⟨predicate, one, read⟩
            rcases (takes_some_iff _ _).mp ⟨model, models⟩ with ⟨title, other, readTitle⟩
            exact .mk named one ((statesPredicate_iff depth predicate).mpr read) other
              ((statesModel_iff title).mpr readTitle)
  · rintro ⟨⟨formed, rfl⟩, ⟨named, one, statesPredicate, other, statesModel⟩⟩
    rcases (takes_some_iff _ _).mpr ⟨_, one, (statesPredicate_iff depth _).mp statesPredicate⟩ with
      ⟨written, predicates⟩
    rcases (takes_some_iff _ _).mpr ⟨_, other, (statesModel_iff _).mp statesModel⟩ with
      ⟨model, models⟩
    exact ⟨⟨written, model⟩, ⟨some written, some model⟩, ⟨named, formed, predicates, models⟩, (),
      rfl, rfl⟩

theorem exists_ofArray_iff (depth : Nat) (items : List Outline) (closed : Bool) :
    (∃ entry, ofOutline depth (.array items closed) = .ok entry) <->
      InArray depth (.array items closed) := by
  constructor
  · rintro ⟨entry, read⟩
    cases items with
    | nil => cases closed <;> cases read
    | cons first rest =>
        cases rest with
        | nil =>
            rcases (bind_eq_ok_iff _ _ _).mp read with ⟨_, _, ended⟩
            cases closed <;> cases ended
        | cons second others =>
            rcases (bind_eq_ok_iff _ _ _).mp read with ⟨written, predicate, afterFirst⟩
            rcases (bind_eq_ok_iff _ _ _).mp afterFirst with ⟨model, title, afterSecond⟩
            rcases (bind_eq_ok_iff _ _ _).mp afterSecond with ⟨_, ended, _⟩
            rcases Bool.and_eq_true_iff.mp ((close_eq_ok_iff _ _).mp ended) with ⟨rfl, last⟩
            cases List.isEmpty_iff.mp last
            exact .mk ((statesPredicate_iff depth first).mpr ⟨written, predicate⟩)
              ((statesModel_iff second).mpr ⟨model, title⟩)
  · rintro ⟨statesPredicate, statesModel⟩
    rcases (statesPredicate_iff depth _).mp statesPredicate with ⟨written, predicate⟩
    rcases (statesModel_iff _).mp statesModel with ⟨model, title⟩
    exact ⟨⟨written, model⟩, by rw [ofOutline, predicate]; simp [title, bind, Except.bind, Outline.close]⟩

theorem InArray.wellFormed {depth : Nat} {outline : Outline} (listed : InArray depth outline) :
    outline.wellFormed = true := by
  rcases listed with ⟨⟨_, fits⟩, ⟨model, rfl⟩⟩
  refine (Json.Outline.wellFormed_array_iff _ _).mpr ⟨?_, rfl⟩
  rintro item listed
  rcases List.mem_cons.mp listed with rfl | listed
  · exact fits.wellFormed
  · cases List.mem_singleton.mp listed
    rfl

/-- An entry is read from an object or from an array of its fields. -/
theorem exists_ofOutline_iff (depth : Nat) (outline : Outline) :
    (∃ entry, ofOutline depth outline = .ok entry) <->
      outline.wellFormed = true ∧ (InObject depth outline ∨ InArray depth outline) := by
  constructor
  · intro read
    cases outline with
    | object members closed =>
        rcases (exists_ofObject_iff depth members closed).mp read with ⟨formed, object⟩
        exact ⟨formed, .inl object⟩
    | array items closed =>
        have array := (exists_ofArray_iff depth items closed).mp read
        exact ⟨array.wellFormed, .inr array⟩
    | _ =>
        rcases read with ⟨_, read⟩
        cases read
  · rintro ⟨formed, object | array⟩
    · cases object with
      | mk named one states other title =>
          exact (exists_ofObject_iff depth _ _).mpr ⟨formed, .mk named one states other title⟩
    · cases array with
      | mk states title => exact (exists_ofArray_iff depth _ _).mpr (.mk states title)

end Entry

/-! ## Model files -/

namespace ModelDocument

open Json.Outline (Takes takes_cons_iff takes_some_iff under under_cons_same under_cons_other Named
  named_cons_iff field_eq_ok_iff skip_bind_eq_ok_iff close_eq_ok_iff)

theorem exists_listOfOutline_iff (value : Outline) :
    (∃ entries, Entry.listOfOutline entryDepth value = .ok entries) <->
      value.wellFormed = true ∧ StatesOverrides EntryForm value := by
  constructor
  · rintro ⟨entries, read⟩
    cases value with
    | array items closed =>
        rcases (bind_eq_ok_iff _ _ _).mp read with ⟨_, found, ended⟩
        rcases (bind_eq_ok_iff _ _ _).mp ended with ⟨_, ended, _⟩
        cases (close_eq_ok_iff _ _).mp ended
        have each := (exists_mapM_ok_iff _ items).mp ⟨_, found⟩
        simp only [Entry.exists_ofOutline_iff] at each
        exact ⟨(Json.Outline.wellFormed_array_iff _ _).mpr ⟨fun item listed => (each item listed).1, rfl⟩,
          items, rfl, fun item listed => (each item listed).2⟩
    | _ => cases read
  · rintro ⟨formed, items, rfl, forms⟩
    have parts := ((Json.Outline.wellFormed_array_iff _ _).mp formed).1
    have each (item : Outline) (listed : item ∈ items) :=
      (Entry.exists_ofOutline_iff entryDepth item).mpr ⟨parts item listed, forms item listed⟩
    rcases (exists_mapM_ok_iff _ items).mpr each with ⟨entries, found⟩
    exact ⟨entries, by rw [Entry.listOfOutline, found]; rfl⟩

/-- The field takes the values of its name, and other members are passed over. -/
theorem readMembers_eq_ok_iff (entries final : Option (List Entry))
    (members : List (Option String × Outline)) :
    readMembers entries members = .ok final <->
      Named members ∧ (∀ member ∈ members, member.2.wellFormed = true) ∧
        Takes (Entry.listOfOutline entryDepth) entries final (under "overrides" members) := by
  induction members generalizing entries with
  | nil =>
      simp only [readMembers, Named, under, Takes, List.filter_nil, List.map_nil, Except.ok.injEq,
        List.not_mem_nil, false_implies, implies_true, true_and]
      exact eq_comm
  | cons member rest inductionHypothesis =>
      rcases member with ⟨name, value⟩
      rw [named_cons_iff, List.forall_mem_cons]
      cases name with
      | none => exact ⟨by rintro ⟨⟩, fun stated => absurd rfl stated.1.1⟩
      | some name =>
          have known : some name ≠ none := by simp
          by_cases overrides : name = "overrides"
          · subst overrides
            have formed (found : List Entry)
                (read : Entry.listOfOutline entryDepth value = .ok found) :
                value.wellFormed = true :=
              ((exists_listOfOutline_iff value).mp ⟨found, read⟩).1
            have later (found : List Entry) : readMembers (some found) rest = .ok final <->
                (Named rest ∧ ∀ member ∈ rest, member.2.wellFormed = true) ∧
                  Takes (Entry.listOfOutline entryDepth) (some found) final
                    (under "overrides" rest) := by
              rw [inductionHypothesis, and_assoc]
            rw [under_cons_same, readMembers, field_eq_ok_iff formed later]
            tauto
          · have passed : readMembers entries ((some name, value) :: rest) =
                value.skip >>= fun _ => readMembers entries rest := by
              rw [readMembers]
              assumption
            rw [under_cons_other (by simpa using overrides), passed, skip_bind_eq_ok_iff,
              inductionHypothesis]
            tauto

theorem wellFormed_of_under {members : List (Option String × Outline)} {name : String}
    {value : Outline} (formed : ∀ member ∈ members, member.2.wellFormed = true)
    (listed : value ∈ under name members) : value.wellFormed = true := by
  rcases List.mem_map.mp listed with ⟨member, kept, rfl⟩
  exact formed member (List.mem_filter.mp kept).1

theorem exists_ofObject_iff (members : List (Option String × Outline)) (closed : Bool) :
    (∃ entries, ofOutline (.object members closed) = .ok entries) <->
      (Outline.object members closed).wellFormed = true ∧
        InObject EntryForm (.object members closed) := by
  simp only [ofOutline, bind_eq_ok_iff, readMembers_eq_ok_iff, close_eq_ok_iff,
    Json.Outline.wellFormed_object_iff]
  constructor
  · rintro ⟨_, final, ⟨named, formed, field⟩, _, rfl, _⟩
    refine ⟨⟨formed, rfl⟩, ?_⟩
    cases final with
    | none =>
        -- A field that took a value would have one.
        cases values : under "overrides" members with
        | nil => exact .absent named values
        | cons value rest =>
            rw [values, takes_cons_iff] at field
            rcases field with ⟨_, result, _, later⟩
            cases rest with
            | nil => cases later
            | cons => exact absurd ((takes_cons_iff _ _ _ _ _).mp later).1 (by simp)
    | some entries =>
        rcases (takes_some_iff _ _).mp ⟨entries, field⟩ with ⟨value, one, read⟩
        exact .present named one ((exists_listOfOutline_iff value).mp read).2
  · rintro ⟨⟨formed, rfl⟩, object⟩
    cases object with
    | absent named missing =>
        exact ⟨[], none, ⟨named, formed, by rw [missing]; rfl⟩, (), rfl, rfl⟩
    | present named one states =>
        have whole := wellFormed_of_under formed (one ▸ List.mem_singleton_self _)
        have read := (exists_listOfOutline_iff _).mpr ⟨whole, states⟩
        rcases (takes_some_iff _ _).mpr ⟨_, one, read⟩ with ⟨entries, field⟩
        exact ⟨entries, some entries, ⟨named, formed, field⟩, (), rfl, rfl⟩

theorem exists_ofArray_iff (items : List Outline) (closed : Bool) :
    (∃ entries, ofOutline (.array items closed) = .ok entries) <->
      (Outline.array items closed).wellFormed = true ∧ InArray EntryForm (.array items closed) := by
  constructor
  · rintro ⟨entries, read⟩
    cases items with
    | nil =>
        cases closed with
        | false => cases read
        | true => exact ⟨rfl, .absent⟩
    | cons first rest =>
        rcases (bind_eq_ok_iff _ _ _).mp read with ⟨_, found, after⟩
        rcases (bind_eq_ok_iff _ _ _).mp after with ⟨_, ended, _⟩
        rcases Bool.and_eq_true_iff.mp ((close_eq_ok_iff _ _).mp ended) with ⟨rfl, last⟩
        cases List.isEmpty_iff.mp last
        rcases (exists_listOfOutline_iff first).mp ⟨_, found⟩ with ⟨formed, states⟩
        refine ⟨(Json.Outline.wellFormed_array_iff _ _).mpr ⟨?_, rfl⟩, .present states⟩
        rintro item listed
        rw [List.mem_singleton.mp listed]
        exact formed
  · rintro ⟨formed, array⟩
    cases array with
    | absent => exact ⟨[], rfl⟩
    | present states =>
        have whole := ((Json.Outline.wellFormed_array_iff _ _).mp formed).1 _ List.mem_cons_self
        rcases (exists_listOfOutline_iff _).mpr ⟨whole, states⟩ with ⟨entries, read⟩
        exact ⟨entries, by rw [ofOutline, read]; rfl⟩

theorem exists_ofOutline_iff (document : Outline) :
    (∃ entries, ofOutline document = .ok entries) <->
      document.wellFormed = true ∧ Admitted document := by
  constructor
  · intro read
    cases document with
    | object members closed =>
        rcases (exists_ofObject_iff members closed).mp read with ⟨formed, object⟩
        exact ⟨formed, .inl object⟩
    | array items closed =>
        rcases (exists_ofArray_iff items closed).mp read with ⟨formed, array⟩
        exact ⟨formed, .inr array⟩
    | _ =>
        rcases read with ⟨_, read⟩
        cases read
  · rintro ⟨formed, object | array⟩
    · cases document with
      | object members closed => exact (exists_ofObject_iff members closed).mpr ⟨formed, object⟩
      | _ => cases object
    · cases document with
      | array items closed => exact (exists_ofArray_iff items closed).mpr ⟨formed, array⟩
      | _ => cases array

/-- A text is read exactly if it writes a document in which each record has one of its forms. -/
theorem exists_read_iff (text : String) :
    (∃ entries, read text = .ok entries) <->
      ∃ document : Outline, document.WrittenBy text ∧ Admitted document := by
  have document (outline : Outline) (trailing : Bool)
      (cut : Outline.ofText text = (outline, trailing)) :
      (∃ entries, read text = .ok entries) <->
        trailing = false ∧ ∃ entries, ofOutline outline = .ok entries := by
    rw [read, Json.document, cut]
    cases decoded : ofOutline outline <;> cases trailing <;> simp [decoded]
  constructor
  · intro found
    rcases (document _ _ rfl).mp found with ⟨ended, decoded⟩
    rcases (exists_ofOutline_iff _).mp decoded with ⟨formed, admitted⟩
    exact ⟨_, (Json.Outline.writtenBy_iff _ text).mpr ⟨formed, Prod.ext rfl ended⟩, admitted⟩
  · rintro ⟨outline, written, admitted⟩
    rcases (Json.Outline.writtenBy_iff outline text).mp written with ⟨formed, cut⟩
    exact (document outline false cut).mpr ⟨rfl, (exists_ofOutline_iff outline).mpr ⟨formed, admitted⟩⟩

theorem InObject.imp {form other : Outline -> Prop} {document : Outline}
    (implies : ∀ entry, form entry -> other entry) (object : InObject form document) :
    InObject other document := by
  cases object with
  | absent named missing => exact .absent named missing
  | present named one states =>
      rcases states with ⟨entries, rfl, each⟩
      exact .present named one ⟨entries, rfl, fun entry listed => implies entry (each entry listed)⟩

/-- Some record is written as the array of its fields. -/
def ListsFields (document : Outline) : Prop :=
  (∃ items, document = .array items true) ∨
    ∃ members entries, document = .object members true ∧
      .array entries true ∈ under "overrides" members ∧ ∃ items, .array items true ∈ entries

theorem documented_or_listsFields {document : Outline} (admitted : Admitted document) :
    Documented document ∨ ListsFields document := by
  by_cases lists : ListsFields document
  · exact .inr lists
  · left
    rcases admitted with object | array
    · cases object with
      | absent named missing => exact .absent named missing
      | present named one states =>
          rcases states with ⟨entries, rfl, each⟩
          refine .present named one ⟨entries, rfl, fun entry listed => ?_⟩
          rcases each entry listed with object | array
          · exact object
          · cases array with
            | mk =>
                refine absurd (.inr ⟨_, entries, rfl, ?_, _, listed⟩) lists
                exact one ▸ List.mem_singleton_self _
    · cases array with
      | absent => exact absurd (.inl ⟨_, rfl⟩) lists
      | present => exact absurd (.inl ⟨_, rfl⟩) lists

end ModelDocument

namespace Overrides

open ModelDocument (Admitted Documented ListsFields EntryForm)

theorem load_eq_json_iff (namespaces : Namespaces) (text : String) (fault : Fault) :
    load namespaces text = .error (.json fault) <-> ModelDocument.read text = .error fault := by
  unfold load
  cases ModelDocument.read text with
  | error other => simp
  | ok entries => cases result : (build namespaces (entries.map stated)).result <;> simp [result]

/-- A text is no JSON fault exactly if it writes a model file in which each record is an object or
the array of its fields.  So every text of the documented shape is read, whatever other members it
has, and a text that loads has this shape or writes some record as an array. -/
theorem reads_records (namespaces : Namespaces) (text : String) :
    ((∀ fault, load namespaces text ≠ .error (.json fault)) <->
      ∃ document : Outline, document.WrittenBy text ∧ Admitted document) ∧
    ((∃ document : Outline, document.WrittenBy text ∧ Documented document) ->
      ∀ fault, load namespaces text ≠ .error (.json fault)) ∧
    ((∃ loaded, load namespaces text = .ok loaded) ->
      ∃ document : Outline, document.WrittenBy text ∧
        (Documented document ∨ ListsFields document)) := by
  have unfaulted : (∀ fault, load namespaces text ≠ .error (.json fault)) <->
      ∃ document : Outline, document.WrittenBy text ∧ Admitted document := by
    rw [← ModelDocument.exists_read_iff]
    simp only [ne_eq, load_eq_json_iff]
    cases ModelDocument.read text with
    | error fault => simp
    | ok entries => simp
  refine ⟨unfaulted, ?_, ?_⟩
  · rintro ⟨document, written, documented⟩
    exact unfaulted.mpr ⟨document, written, .inl (documented.imp fun _ => .inl)⟩
  · rintro ⟨loaded, success⟩
    have fine (fault : Fault) : load namespaces text ≠ .error (.json fault) := by
      rw [success]
      rintro ⟨⟩
    rcases unfaulted.mp fine with ⟨document, written, admitted⟩
    exact ⟨document, written, ModelDocument.documented_or_listsFields admitted⟩

/-- A pile in nested arrays is loaded although no object is written where one is documented. -/
theorem reads_listed_pile :
    let text := "[[[\x7b\"ios:stacking\":\">1\"\x7d,\"item/pile\"]]]"
    (∃ loaded, load .standard text = .ok loaded) ∧
      ¬ ∃ document : Outline, document.WrittenBy text ∧ Documented document := by
  intro text
  let pile : Entry := ⟨[("ios:stacking", .string ">1")], "item/pile"⟩
  let entry : Outline := .array [.object [(some "ios:stacking", .string (some ">1"))] true,
    .string (some "item/pile")] true
  let listing : Outline := .array [.array [entry] true] true
  have tokens : Json.tokensOf text.toList = listing.tokens := by decide +kernel
  have outlined : Outline.ofText text = (listing, false) := Outline.ofText_of_tokens rfl tokens
  have read : ModelDocument.read text = .ok [pile] := by
    rw [ModelDocument.read, Json.document, outlined]
    rfl
  constructor
  · have made : (build .standard [stated pile]).result.isOk = true := by decide +kernel
    cases result : (build .standard [stated pile]).result with
    | error fault =>
        rw [result] at made
        cases made
    | ok overrides =>
        have loaded : load .standard text =
            .ok (overrides, (build .standard [stated pile]).log) := by
          rw [load, read]
          simp only [List.map_cons, List.map_nil, result]
        exact ⟨_, loaded⟩
  · rintro ⟨document, written, documented⟩
    have cut := ((Json.Outline.writtenBy_iff document text).mp written).2
    rw [outlined] at cut
    cases documented <;> exact absurd (congrArg Prod.fst cut) (by rintro ⟨⟩)

end Overrides
end ItemModels

import ItemModels.Override.Requirements
import Mathlib.Data.List.Basic
import Mathlib.Data.List.Induction

namespace ItemModels

/-!
# Lists with one entry for each key

The members of an object and the requirements of an override are kept in the
same way: a key that is stated again keeps its place and takes the new value.
They differ in what counts as the same key, the exact spelling or the location
that it names.  Here the way of keeping is studied for keys of any type.  What
is kept is fixed by two things, the order in which keys were first stated and
the value that was stated last for each.
-/

namespace Keyed

variable {Key Value : Type} [DecidableEq Key]

/-- States a value for a key. -/
def put (key : Key) (value : Value) : List (Key × Value) -> List (Key × Value)
  | [] => [(key, value)]
  | (other, old) :: rest =>
      if other = key then (key, value) :: rest else (other, old) :: put key value rest

/-- What remains of a sequence of statements. -/
def gather (stated : List (Key × Value)) : List (Key × Value) :=
  stated.foldl (fun entries statement => put statement.1 statement.2 entries) []

/-- The value that was stated last for a key. -/
def last? (key : Key) (stated : List (Key × Value)) : Option Value :=
  (stated.filter fun statement => statement.1 = key).getLast?.map Prod.snd

/-! ## Last values -/

theorem last_cons (key other : Key) (value : Value) (rest : List (Key × Value)) :
    last? key ((other, value) :: rest) =
      (last? key rest).or (if other = key then some value else none) := by
  by_cases same : other = key
  · cases found : (rest.filter fun statement => statement.1 = key).getLast? <;>
      simp [last?, same, List.getLast?_cons, found]
  · simp [last?, same]

theorem last_concat (key other : Key) (value : Value) (front : List (Key × Value)) :
    last? key (front ++ [(other, value)]) = if other = key then some value else last? key front := by
  by_cases same : other = key <;> simp [last?, same]

theorem last_eq_none {key : Key} {stated : List (Key × Value)}
    (absent : key ∉ stated.map Prod.fst) : last? key stated = none := by
  have nothing : (stated.filter fun statement => statement.1 = key) = [] := by
    rw [List.filter_eq_nil_iff]
    intro statement listed same
    apply absent
    rw [← of_decide_eq_true same]
    exact List.mem_map_of_mem listed
  rw [last?, nothing]
  rfl

theorem last_of_mem {entry : Key × Value} {entries : List (Key × Value)}
    (nodup : (entries.map Prod.fst).Nodup) (listed : entry ∈ entries) :
    last? entry.1 entries = some entry.2 := by
  induction entries with
  | nil => cases listed
  | cons head rest inductionHypothesis =>
      rcases List.nodup_cons.mp nodup with ⟨fresh, others⟩
      rw [last_cons]
      rcases List.mem_cons.mp listed with rfl | later
      · rw [last_eq_none fresh, if_pos rfl]
        rfl
      · rw [inductionHypothesis others later]
        rfl

/-- The last value of a key is that of a statement after which the key is not stated again. -/
theorem last_eq_some_iff (key : Key) (value : Value) (stated : List (Key × Value)) :
    last? key stated = some value <->
      ∃ before after, stated = before ++ (key, value) :: after ∧ key ∉ after.map Prod.fst := by
  constructor
  · intro found
    induction stated using List.reverseRecOn with
    | nil => cases found
    | append_singleton front statement inductionHypothesis =>
        rcases statement with ⟨other, latest⟩
        rw [last_concat] at found
        by_cases same : other = key
        · subst same
          rw [if_pos rfl] at found
          cases found
          exact ⟨front, [], rfl, List.not_mem_nil⟩
        · rw [if_neg same] at found
          rcases inductionHypothesis found with ⟨before, after, rfl, absent⟩
          refine ⟨before, after ++ [(other, latest)], by simp, ?_⟩
          rw [List.map_append, List.map_singleton, List.mem_append, List.mem_singleton]
          rintro (listed | again)
          · exact absent listed
          · exact same again.symm
  · rintro ⟨before, after, rfl, absent⟩
    induction before with
    | nil =>
        rw [List.nil_append, last_cons, last_eq_none absent, if_pos rfl]
        rfl
    | cons statement rest inductionHypothesis =>
        rcases statement with ⟨other, earlier⟩
        rw [List.cons_append, last_cons, inductionHypothesis]
        rfl

theorem last_put {entries : List (Key × Value)} (nodup : (entries.map Prod.fst).Nodup)
    (key other : Key) (value : Value) :
    last? other (put key value entries) =
      if key = other then some value else last? other entries := by
  induction entries with
  | nil => exact last_concat other key value []
  | cons head rest inductionHypothesis =>
      rcases head with ⟨first, old⟩
      rcases List.nodup_cons.mp nodup with ⟨fresh, others⟩
      by_cases here : first = key
      · subst here
        rw [put, if_pos rfl, last_cons, last_cons]
        by_cases same : first = other
        · subst same
          rw [last_eq_none fresh, if_pos rfl, if_pos rfl]
          rfl
        · rw [if_neg same, if_neg same, if_neg same]
      · rw [put, if_neg here, last_cons, last_cons, inductionHypothesis others]
        by_cases same : key = other
        · subst same
          rw [if_pos rfl, if_pos rfl]
          rfl
        · rw [if_neg same, if_neg same]

/-! ## The order of keys -/

theorem eraseDups_concat (keys : List Key) (key : Key) :
    (keys ++ [key]).eraseDups = if key ∈ keys then keys.eraseDups else keys.eraseDups ++ [key] := by
  by_cases listed : key ∈ keys <;>
    simp [List.eraseDups_append, List.eraseDups_cons, List.removeAll, listed]

theorem keys_put (key : Key) (value : Value) (entries : List (Key × Value)) :
    (put key value entries).map Prod.fst =
      if key ∈ entries.map Prod.fst then entries.map Prod.fst
      else entries.map Prod.fst ++ [key] := by
  induction entries with
  | nil => rfl
  | cons head rest inductionHypothesis =>
      rcases head with ⟨first, old⟩
      by_cases here : first = key
      · simp [put, here]
      · have other : key ≠ first := fun same => here same.symm
        by_cases later : key ∈ rest.map Prod.fst
        · rw [if_pos later] at inductionHypothesis
          rw [put, if_neg here, List.map_cons, inductionHypothesis, List.map_cons,
            if_pos (List.mem_cons_of_mem _ later)]
        · rw [if_neg later] at inductionHypothesis
          have absent : key ∉ first :: rest.map Prod.fst := by
            rw [List.mem_cons]
            rintro (same | listed)
            · exact other same
            · exact later listed
          rw [put, if_neg here, List.map_cons, inductionHypothesis, List.map_cons, if_neg absent]
          rfl

theorem gather_concat (front : List (Key × Value)) (key : Key) (value : Value) :
    gather (front ++ [(key, value)]) = put key value (gather front) := by
  rw [gather, List.foldl_append]
  rfl

/-- Keys stand in the order in which they were first stated. -/
theorem keys_gather (stated : List (Key × Value)) :
    (gather stated).map Prod.fst = (stated.map Prod.fst).eraseDups := by
  induction stated using List.reverseRecOn with
  | nil => rfl
  | append_singleton front statement inductionHypothesis =>
      rcases statement with ⟨key, value⟩
      rw [gather_concat, keys_put, inductionHypothesis, List.map_append, List.map_singleton,
        eraseDups_concat]
      simp only [List.mem_eraseDups]

theorem eraseDups_of_nodup {keys : List Key} (nodup : keys.Nodup) : keys.eraseDups = keys := by
  induction keys using List.reverseRecOn with
  | nil => rfl
  | append_singleton front key inductionHypothesis =>
      rcases List.nodup_append.mp nodup with ⟨distinct, -, apart⟩
      have fresh : key ∉ front := fun listed => apart key listed key (List.mem_singleton_self key) rfl
      rw [eraseDups_concat, if_neg fresh, inductionHypothesis distinct]

theorem nodup_eraseDups (keys : List Key) : keys.eraseDups.Nodup := by
  induction keys using List.reverseRecOn with
  | nil => exact List.nodup_nil
  | append_singleton front key inductionHypothesis =>
      rw [eraseDups_concat]
      by_cases listed : key ∈ front
      · rw [if_pos listed]
        exact inductionHypothesis
      · rw [if_neg listed, List.nodup_append]
        refine ⟨inductionHypothesis, List.pairwise_singleton _ key, ?_⟩
        intro other earlier last only same
        apply listed
        rw [← List.mem_singleton.mp only, ← same]
        exact List.mem_eraseDups.mp earlier

theorem nodup_keys_gather (stated : List (Key × Value)) :
    ((gather stated).map Prod.fst).Nodup := by
  rw [keys_gather]
  exact nodup_eraseDups _

/-- Without repetitions, keys stand in the order of their first places. -/
theorem pairwise_eraseDups (keys : List Key) :
    keys.eraseDups.Pairwise fun one other => keys.idxOf one < keys.idxOf other := by
  induction keys using List.reverseRecOn with
  | nil => exact List.Pairwise.nil
  | append_singleton front key inductionHypothesis =>
      -- A key that is not the first of its kind does not change where the others are first.
      have kept : front.eraseDups.Pairwise fun one other =>
          (front ++ [key]).idxOf one < (front ++ [key]).idxOf other := by
        apply inductionHypothesis.imp_of_mem
        intro one other first second earlier
        rw [List.idxOf_append_of_mem (List.mem_eraseDups.mp first),
          List.idxOf_append_of_mem (List.mem_eraseDups.mp second)]
        exact earlier
      rw [eraseDups_concat]
      by_cases listed : key ∈ front
      · rw [if_pos listed]
        exact kept
      · rw [if_neg listed, List.pairwise_append]
        refine ⟨kept, List.pairwise_singleton _ key, ?_⟩
        intro one earlier other last
        have inFront : one ∈ front := List.mem_eraseDups.mp earlier
        rw [List.mem_singleton.mp last, List.idxOf_append_of_mem inFront,
          List.idxOf_append_of_notMem listed]
        exact Nat.lt_add_right _ (List.idxOf_lt_length_of_mem inFront)

theorem eraseDups_map_eraseDups {Name : Type} [DecidableEq Name] (rename : Key -> Name)
    (keys : List Key) :
    (keys.eraseDups.map rename).eraseDups = (keys.map rename).eraseDups := by
  induction keys using List.reverseRecOn with
  | nil => rfl
  | append_singleton front key inductionHypothesis =>
      rw [eraseDups_concat, List.map_append, List.map_singleton, eraseDups_concat]
      by_cases listed : key ∈ front
      · have renamed : rename key ∈ front.map rename := List.mem_map_of_mem listed
        rw [if_pos listed, if_pos renamed]
        exact inductionHypothesis
      · rw [if_neg listed, List.map_append, List.map_singleton, eraseDups_concat,
          inductionHypothesis]
        simp only [List.mem_map, List.mem_eraseDups]

/-! ## What is kept -/

/-- Each key has the value that was stated last for it. -/
theorem last_gather (key : Key) (stated : List (Key × Value)) :
    last? key (gather stated) = last? key stated := by
  induction stated using List.reverseRecOn with
  | nil => rfl
  | append_singleton front statement inductionHypothesis =>
      rcases statement with ⟨other, value⟩
      rw [gather_concat, last_put (nodup_keys_gather front), last_concat, inductionHypothesis]

theorem mem_gather_iff (key : Key) (value : Value) (stated : List (Key × Value)) :
    (key, value) ∈ gather stated <-> last? key stated = some value := by
  rw [← last_gather]
  constructor
  · exact last_of_mem (nodup_keys_gather stated)
  · intro last
    rcases (last_eq_some_iff key value _).mp last with ⟨before, after, split, -⟩
    rw [split]
    exact List.mem_append_right before List.mem_cons_self

theorem eq_of_keys_of_last {one other : List (Key × Value)} (nodup : (one.map Prod.fst).Nodup)
    (keys : one.map Prod.fst = other.map Prod.fst) (last : ∀ key, last? key one = last? key other) :
    one = other := by
  induction one generalizing other with
  | nil => exact (List.map_eq_nil_iff.mp keys.symm).symm
  | cons head rest inductionHypothesis =>
      cases other with
      | nil => cases keys
      | cons head' rest' =>
          rcases head with ⟨key, value⟩
          rcases head' with ⟨key', value'⟩
          rcases List.cons.inj keys with ⟨rfl, others⟩
          rcases List.nodup_cons.mp nodup with ⟨fresh, distinct⟩
          have absent : last? key rest = none := last_eq_none fresh
          have absent' : last? key rest' = none := by
            apply last_eq_none
            rw [← others]
            exact fresh
          have values : some value = some value' := by
            simpa [last_cons, absent, absent'] using last key
          have rests : ∀ later, last? later rest = last? later rest' := by
            intro later
            by_cases same : key = later
            · subst same
              rw [absent, absent']
            · simpa [last_cons, same] using last later
          rw [Option.some.inj values, inductionHypothesis distinct others rests]

/-- Keys that are all different are kept as they are stated. -/
theorem gather_of_nodup {stated : List (Key × Value)} (nodup : (stated.map Prod.fst).Nodup) :
    gather stated = stated := by
  apply eq_of_keys_of_last (nodup_keys_gather stated)
  · rw [keys_gather, eraseDups_of_nodup nodup]
  · intro key
    exact last_gather key stated

theorem gather_eq_iff (one other : List (Key × Value)) :
    gather one = gather other <->
      (one.map Prod.fst).eraseDups = (other.map Prod.fst).eraseDups ∧
        ∀ key, last? key one = last? key other := by
  constructor
  · intro same
    have keys := congrArg (List.map Prod.fst) same
    rw [keys_gather, keys_gather] at keys
    refine ⟨keys, fun key => ?_⟩
    rw [← last_gather key one, same, last_gather]
  · rintro ⟨keys, last⟩
    apply eq_of_keys_of_last (nodup_keys_gather one)
    · rw [keys_gather, keys_gather, keys]
    · intro key
      rw [last_gather, last_gather, last]

/-! ## Keys that name the same

Statements may be gathered by their keys first and then once more by what the
keys name.  The order of names comes out as if they had been gathered by name
alone, but the values need not: the first step puts the last value of a key
into the place where the key was new.
-/

section Renaming

variable {Name : Type} [DecidableEq Name] (rename : Key -> Name)

/-- Of the keys that name the same, the one that was first stated last. -/
def newest? (name : Name) (stated : List (Key × Value)) : Option Key :=
  ((stated.map Prod.fst).eraseDups.filter fun key => rename key = name).getLast?

omit [DecidableEq Key] [DecidableEq Name] in
theorem keys_renamed (stated : List (Key × Value)) :
    (stated.map (Prod.map rename id)).map Prod.fst = (stated.map Prod.fst).map rename := by
  rw [List.map_map, List.map_map]
  rfl

omit [DecidableEq Key] in
/-- The last value for a name is that of a statement after which no key names the same. -/
theorem last_renamed_eq_some_iff (name : Name) (value : Value) (stated : List (Key × Value)) :
    last? name (stated.map (Prod.map rename id)) = some value <->
      ∃ before key after, stated = before ++ (key, value) :: after ∧ rename key = name ∧
        ∀ later ∈ after, rename later.1 ≠ name := by
  rw [last_eq_some_iff]
  constructor
  · rintro ⟨before, after, split, absent⟩
    rcases List.map_eq_append_iff.mp split with ⟨front, back, rfl, rfl, behind⟩
    rcases List.map_eq_cons_iff.mp behind with ⟨statement, rest, rfl, here, rfl⟩
    rcases statement with ⟨key, latest⟩
    rcases Prod.mk.inj here with ⟨named, rfl⟩
    refine ⟨front, key, rest, rfl, named, fun later listed same => ?_⟩
    apply absent
    rw [keys_renamed, List.mem_map]
    exact ⟨later.1, List.mem_map_of_mem listed, same⟩
  · rintro ⟨before, key, after, rfl, rfl, absent⟩
    refine ⟨before.map (Prod.map rename id), after.map (Prod.map rename id), ?_, ?_⟩
    · rw [List.map_append, List.map_cons]
      rfl
    · rw [keys_renamed, List.map_map, List.mem_map]
      rintro ⟨later, listed, same⟩
      exact absent later listed same

theorem keys_gather_renamed_gather (stated : List (Key × Value)) :
    (gather ((gather stated).map (Prod.map rename id))).map Prod.fst =
      (gather (stated.map (Prod.map rename id))).map Prod.fst := by
  rw [keys_gather, keys_gather, keys_renamed, keys_renamed, keys_gather, eraseDups_map_eraseDups]

/-- After the first step, the last value for a name is that of its newest key. -/
theorem last_renamed_gather (name : Name) (stated : List (Key × Value)) :
    last? name ((gather stated).map (Prod.map rename id)) =
      (newest? rename name stated).bind fun key => last? key stated := by
  have entries : ((gather stated).map (Prod.map rename id)).filter (fun entry => entry.1 = name) =
      ((gather stated).filter fun entry => rename entry.1 = name).map (Prod.map rename id) := by
    rw [List.filter_map]
    rfl
  have newest : newest? rename name stated =
      (((gather stated).filter fun entry => rename entry.1 = name).map Prod.fst).getLast? := by
    rw [newest?, ← keys_gather, List.filter_map]
    rfl
  rw [last?, entries, newest, List.getLast?_map, List.getLast?_map]
  cases found : ((gather stated).filter fun entry => rename entry.1 = name).getLast? with
  | none => rfl
  | some entry =>
      have listed : entry ∈ gather stated := (List.mem_filter.mp (List.mem_of_getLast? found)).1
      have value := last_of_mem (nodup_keys_gather stated) listed
      rw [last_gather] at value
      simp [value]

/-- Gathering in two steps is gathering by name exactly when the value that was stated last for a
name is the last value of its newest key. -/
theorem gather_renamed_gather_eq_iff (stated : List (Key × Value)) :
    gather ((gather stated).map (Prod.map rename id)) = gather (stated.map (Prod.map rename id)) <->
      ∀ name, last? name (stated.map (Prod.map rename id)) =
        (newest? rename name stated).bind fun key => last? key stated := by
  have order := keys_gather_renamed_gather rename stated
  rw [keys_gather, keys_gather] at order
  rw [gather_eq_iff]
  simp only [order, true_and, last_renamed_gather]
  exact forall_congr' fun name => eq_comm

end Renaming

end Keyed

/-! ## Members and requirements -/

theorem Json.putMember_eq_put (name : String) (value : Json) (members : List (String × Json)) :
    Json.putMember name value members = Keyed.put name value members := by
  induction members with
  | nil => rfl
  | cons member rest inductionHypothesis =>
      rw [Json.putMember, Keyed.put, inductionHypothesis]

theorem Json.membersOf_eq_gather (written : List (String × Json)) :
    Json.membersOf written = Keyed.gather written := by
  unfold Json.membersOf Keyed.gather
  simp only [Json.putMember_eq_put]

namespace Requirements

theorem putEntry_eq_put (key : Location) (value : Json) (entries : List (Location × Json)) :
    putEntry key value entries = Keyed.put key value entries := by
  induction entries with
  | nil => rfl
  | cons entry rest inductionHypothesis =>
      by_cases same : entry.1 = key
      · rw [putEntry, Keyed.put, if_pos same, if_pos same, same]
      · rw [putEntry, Keyed.put, if_neg same, if_neg same, inductionHypothesis]

/-- Requirements gather the statements by the locations that their keys name. -/
theorem entries_ofMembers (members : List (String × Json)) :
    (ofMembers members).entries = Keyed.gather (members.map (Prod.map Location.ofText id)) := by
  induction members using List.reverseRecOn with
  | nil => rfl
  | append_singleton front member inductionHypothesis =>
      rcases member with ⟨key, value⟩
      have step : ofMembers (front ++ [(key, value)]) = (ofMembers front).put key value := by
        rw [ofMembers, List.foldl_append]
        rfl
      rw [step, put, putEntry_eq_put, inductionHypothesis, List.map_append, List.map_singleton]
      exact (Keyed.gather_concat _ _ _).symm

end Requirements
end ItemModels

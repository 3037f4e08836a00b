import ItemModels.Pattern.Basic
import Mathlib.Logic.Basic

namespace ItemModels
namespace Pattern

/-!
# What a pattern matches

A pattern relates the positions at which a match may start to those at which it
may end.  `Spans` says so by the structure of the pattern alone: a sequence meets
in the middle, and a repetition is taken round after round, as often as its bounds
allow.  Following sets of positions finds just these ends.

Two things have to be shown of repetitions.  The rounds that `spread` adds come
from new positions only, and no other position leads further, since what has been
seen before was followed before.  And rounds are counted up to the number of
positions only: a match never goes back, so that of more rounds than that, one
stays where it is, and can be left out or taken once more.
-/

/-- The relation, taken a number of times. -/
def Times (relation : Nat -> Nat -> Prop) : Nat -> Nat -> Nat -> Prop
  | 0, low, high => low = high
  | count + 1, low, high => ∃ middle, relation low middle ∧ Times relation count middle high

/-- The pattern matches what stands between two positions of a text. -/
def Spans (text : Array Char) : Pattern -> Nat -> Nat -> Prop
  | .empty, low, high => low = high
  | .char set, low, high =>
      (∃ letter, text[low]? = some letter ∧ set.has letter = true) ∧ high = low + 1
  | .border edge, low, high =>
      edge.holds (before? text low) text[low]? = true ∧ low = high
  | .sequence first second, low, high =>
      ∃ middle, Spans text first low middle ∧ Spans text second middle high
  | .choice first second, low, high => Spans text first low high ∨ Spans text second low high
  | .repeated body least most, low, high =>
      ∃ further, (∀ bound, most = some bound -> further <= bound - least) ∧
        Times (Spans text body) (least + further) low high

/-- The pattern matches a text from its start to its end. -/
def Covers (pattern : Pattern) (text : String) : Prop :=
  Spans text.toList.toArray pattern 0 text.toList.toArray.size

/-! ## Taking a relation several times -/

section Times

variable {relation : Nat -> Nat -> Prop}

theorem times_add (first second low high : Nat) :
    Times relation (first + second) low high <->
      ∃ middle, Times relation first low middle ∧ Times relation second middle high := by
  induction first generalizing low with
  | zero => simp [Times]
  | succ first inductionHypothesis =>
      rw [Nat.succ_add]
      simp only [Times, inductionHypothesis]
      constructor
      · rintro ⟨next, step, middle, earlier, later⟩
        exact ⟨middle, ⟨next, step, earlier⟩, later⟩
      · rintro ⟨middle, ⟨next, step, earlier⟩, later⟩
        exact ⟨next, step, middle, earlier, later⟩

theorem times_one (low high : Nat) : Times relation 1 low high <-> relation low high := by
  simp [Times]

/-- No number of rounds leads out of a set that one round does not lead out of. -/
theorem mem_of_times {seen : List Nat}
    (closed : ∀ start ∈ seen, ∀ other, relation start other -> other ∈ seen)
    {count low high : Nat} (listed : low ∈ seen) (rounds : Times relation count low high) :
    high ∈ seen := by
  induction count generalizing low with
  | zero =>
      rw [show high = low from Eq.symm rounds]
      exact listed
  | succ count inductionHypothesis =>
      rcases rounds with ⟨middle, related, rest⟩
      exact inductionHypothesis (closed low listed middle related) rest

/-- A relation between positions that never goes back and stays in the text. -/
structure Onward (size : Nat) (relation : Nat -> Nat -> Prop) : Prop where
  le : ∀ {low high}, relation low high -> low <= high
  inside : ∀ {low high}, relation low high -> low <= size -> high <= size

variable {size : Nat}

theorem Onward.times (onward : Onward size relation) (count : Nat) :
    Onward size (Times relation count) := by
  induction count with
  | zero =>
      constructor
      · rintro low high rfl
        exact Nat.le_refl low
      · rintro low high rfl within
        exact within
  | succ count inductionHypothesis =>
      constructor
      · rintro low high ⟨middle, step, rest⟩
        exact Nat.le_trans (onward.le step) (inductionHypothesis.le rest)
      · rintro low high ⟨middle, step, rest⟩ within
        exact inductionHypothesis.inside rest (onward.inside step within)

/-- Of more rounds than there are steps between two positions, one stays where it is. -/
theorem exists_idle_round (onward : Onward size relation) {count low high : Nat}
    (rounds : Times relation count low high) (many : high < low + count) :
    ∃ before after position, count = before + 1 + after ∧ Times relation before low position ∧
      relation position position ∧ Times relation after position high := by
  induction count generalizing low with
  | zero =>
      have same : low = high := rounds
      omega
  | succ count inductionHypothesis =>
      rcases rounds with ⟨middle, step, rest⟩
      have forward := onward.le step
      by_cases stays : middle = low
      · rw [stays] at step rest
        exact ⟨0, count, low, by omega, rfl, step, rest⟩
      · rcases inductionHypothesis rest (by omega) with
          ⟨before, after, position, split, earlier, idle, later⟩
        exact ⟨before + 1, after, position, by omega, ⟨middle, step, earlier⟩, idle, later⟩

/-- As many rounds as there are positions, or any greater number of rounds: it is the same. -/
theorem times_of_many (onward : Onward size relation) {count low high : Nat}
    (many : size + 1 <= count) (within : low <= size) :
    Times relation count low high <-> Times relation (size + 1) low high := by
  rcases Nat.exists_eq_add_of_le many with ⟨extra, rfl⟩
  clear many
  induction extra with
  | zero => exact Iff.rfl
  | succ extra inductionHypothesis =>
      rw [← inductionHypothesis]
      constructor
      · intro rounds
        have ends := (onward.times _).inside rounds within
        rcases exists_idle_round onward rounds (by omega) with
          ⟨before, after, position, split, earlier, _, later⟩
        rw [show size + 1 + extra = before + after by omega, times_add]
        exact ⟨position, earlier, later⟩
      · intro rounds
        have ends := (onward.times _).inside rounds within
        rcases exists_idle_round onward rounds (by omega) with
          ⟨before, after, position, split, earlier, idle, later⟩
        rw [show size + 1 + (extra + 1) = before + (1 + (1 + after)) by omega, times_add]
        refine ⟨position, earlier, ?_⟩
        rw [times_add]
        refine ⟨position, (times_one _ _).mpr idle, ?_⟩
        rw [times_add]
        exact ⟨position, (times_one _ _).mpr idle, later⟩

theorem times_min (onward : Onward size relation) {count low high : Nat} (within : low <= size) :
    Times relation (min count (size + 1)) low high <-> Times relation count low high := by
  by_cases many : size + 1 <= count
  · rw [Nat.min_eq_right many, times_of_many onward many within]
  · rw [Nat.min_eq_left (by omega)]

end Times

/-! ## Following sets of positions -/

/-- A step on sets of positions that follows a relation inside a text. -/
structure Realizes (size : Nat) (step : List Nat -> List Nat) (relation : Nat -> Nat -> Prop) :
    Prop where
  onward : Onward size relation
  mem_iff : ∀ {starts : List Nat}, (∀ start ∈ starts, start <= size) ->
    ∀ position, position ∈ step starts <-> ∃ start ∈ starts, relation start position

namespace Realizes

variable {size : Nat} {step : List Nat -> List Nat} {relation : Nat -> Nat -> Prop}

theorem inside (realizes : Realizes size step relation) {starts : List Nat}
    (within : ∀ start ∈ starts, start <= size) : ∀ position ∈ step starts, position <= size := by
  intro position reached
  rcases (realizes.mem_iff within position).mp reached with ⟨start, listed, related⟩
  exact realizes.onward.inside related (within start listed)

theorem iterated (realizes : Realizes size step relation) (count : Nat) :
    Realizes size (iterate step count) (Times relation count) := by
  refine ⟨realizes.onward.times count, ?_⟩
  induction count with
  | zero =>
      intro starts _ position
      simp [iterate, Times]
  | succ count inductionHypothesis =>
      intro starts within position
      rw [iterate, inductionHypothesis (realizes.inside within)]
      simp only [realizes.mem_iff within, Times]
      constructor
      · rintro ⟨middle, ⟨start, listed, related⟩, rounds⟩
        exact ⟨start, listed, middle, related, rounds⟩
      · rintro ⟨start, listed, middle, related, rounds⟩
        exact ⟨middle, ⟨start, listed, related⟩, rounds⟩

/-! ### Adding the positions that are new -/

/-- The positions that a step leads to and that have not been seen. -/
def fresh (step : List Nat -> List Nat) (seen last : List Nat) : List Nat :=
  (step last).filter fun position => !seen.contains position

/-- Of the positions seen so far, all have been followed but the last ones. -/
structure Frontier (size : Nat) (relation : Nat -> Nat -> Prop) (seen last : List Nat) : Prop where
  within : ∀ start ∈ seen, start <= size
  recent : last ⊆ seen
  followed : ∀ start ∈ seen, start ∉ last -> ∀ position, relation start position ->
    position ∈ seen

variable {seen last : List Nat}

theorem mem_fresh_iff (realizes : Realizes size step relation)
    (frontier : Frontier size relation seen last) (position : Nat) :
    position ∈ fresh step seen last <->
      (∃ start ∈ last, relation start position) ∧ position ∉ seen := by
  have inside : ∀ start ∈ last, start <= size := fun start listed =>
    frontier.within start (frontier.recent listed)
  simp [fresh, realizes.mem_iff inside]

/-- Whatever one step leads to has been seen or is new. -/
theorem mem_append_fresh (realizes : Realizes size step relation)
    (frontier : Frontier size relation seen last) {start position : Nat} (listed : start ∈ seen)
    (related : relation start position) : position ∈ seen ++ fresh step seen last := by
  rw [List.mem_append, realizes.mem_fresh_iff frontier]
  by_cases known : position ∈ seen
  · exact .inl known
  · by_cases recent : start ∈ last
    · exact .inr ⟨⟨start, recent, related⟩, known⟩
    · exact absurd (frontier.followed start listed recent position related) known

theorem exists_step_of_fresh (realizes : Realizes size step relation)
    (frontier : Frontier size relation seen last) {position : Nat}
    (added : position ∈ fresh step seen last) : ∃ start ∈ seen, relation start position := by
  rcases ((realizes.mem_fresh_iff frontier position).mp added).1 with ⟨start, recent, related⟩
  exact ⟨start, frontier.recent recent, related⟩

/-- Once the new positions are added, they are the last ones. -/
theorem next_frontier (realizes : Realizes size step relation)
    (frontier : Frontier size relation seen last) :
    Frontier size relation (seen ++ fresh step seen last) (fresh step seen last) := by
  refine ⟨?_, List.subset_append_right _ _, ?_⟩
  · intro start listed
    rcases List.mem_append.mp listed with known | added
    · exact frontier.within start known
    · rcases realizes.exists_step_of_fresh frontier added with ⟨other, known, related⟩
      exact realizes.onward.inside related (frontier.within other known)
  · intro start listed old position related
    rcases List.mem_append.mp listed with known | added
    · exact realizes.mem_append_fresh frontier known related
    · exact absurd added old

/-- When nothing is new, more rounds reach nothing else. -/
theorem mem_iff_of_fresh_nil (realizes : Realizes size step relation)
    (frontier : Frontier size relation seen last) (nothing : fresh step seen last = [])
    (count position : Nat) :
    position ∈ seen <->
      ∃ further, further <= count ∧ ∃ start ∈ seen, Times relation further start position := by
  have closed : ∀ start ∈ seen, ∀ other, relation start other -> other ∈ seen := by
    intro start listed other related
    have covered := realizes.mem_append_fresh frontier listed related
    rw [nothing, List.append_nil] at covered
    exact covered
  constructor
  · intro listed
    exact ⟨0, Nat.zero_le _, position, listed, rfl⟩
  · rintro ⟨further, _, start, listed, rounds⟩
    exact mem_of_times closed listed rounds

/-- Starting from the new positions too is one round more from those seen before. -/
theorem times_from_fresh_iff (realizes : Realizes size step relation)
    (frontier : Frontier size relation seen last) (count position : Nat) :
    (∃ further, further <= count ∧
        ∃ start ∈ seen ++ fresh step seen last, Times relation further start position) <->
      ∃ further, further <= count + 1 ∧ ∃ start ∈ seen, Times relation further start position := by
  constructor
  · rintro ⟨further, few, start, listed, rounds⟩
    rcases List.mem_append.mp listed with known | added
    · exact ⟨further, by omega, start, known, rounds⟩
    · rcases realizes.exists_step_of_fresh frontier added with ⟨other, known, related⟩
      exact ⟨further + 1, by omega, other, known, start, related, rounds⟩
  · rintro ⟨further, few, start, listed, rounds⟩
    cases further with
    | zero => exact ⟨0, Nat.zero_le _, start, List.mem_append_left _ listed, rounds⟩
    | succ further =>
        rcases rounds with ⟨middle, related, rest⟩
        exact ⟨further, by omega, middle, realizes.mem_append_fresh frontier listed related, rest⟩

theorem mem_spread_iff (realizes : Realizes size step relation) (count : Nat)
    (frontier : Frontier size relation seen last) (position : Nat) :
    position ∈ spread step count seen last <->
      ∃ further, further <= count ∧ ∃ start ∈ seen, Times relation further start position := by
  induction count generalizing seen last with
  | zero => simp [spread, Times]
  | succ count inductionHypothesis =>
      have spread_succ : spread step (count + 1) seen last =
          if (fresh step seen last).isEmpty then seen
          else spread step count (seen ++ fresh step seen last) (fresh step seen last) := rfl
      rw [spread_succ]
      split
      · rename_i nothing
        exact realizes.mem_iff_of_fresh_nil frontier (List.isEmpty_iff.mp nothing) _ position
      · rw [inductionHypothesis (realizes.next_frontier frontier)]
        exact realizes.times_from_fresh_iff frontier count position

/-! ### One constructor of patterns after the other -/

theorem empty (size : Nat) :
    Realizes size (fun starts => starts) (fun low high => low = high) := by
  refine ⟨⟨?_, ?_⟩, fun _ position => by simp⟩
  · rintro low high rfl
    exact Nat.le_refl low
  · rintro low high rfl within
    exact within

theorem char (text : Array Char) (set : CharSet) :
    Realizes text.size (reach text (.char set)) (Spans text (.char set)) := by
  refine ⟨⟨?_, ?_⟩, ?_⟩
  · rintro low high ⟨_, rfl⟩
    exact Nat.le_succ low
  · rintro low high ⟨⟨letter, present, _⟩, rfl⟩ _
    exact (Array.getElem?_eq_some_iff.mp present).1
  · intro starts _ position
    rw [reach, List.mem_filterMap]
    apply exists_congr
    intro start
    apply and_congr_right
    intro _
    cases found : text[start]? with
    | none => simp [Spans, found]
    | some letter =>
        by_cases has : set.has letter = true
        · simp only [has, if_true, Option.some.injEq, Spans, found, exists_eq_left', true_and]
          exact eq_comm
        · simp [Spans, found, has]

theorem border (text : Array Char) (edge : Edge) :
    Realizes text.size (reach text (.border edge)) (Spans text (.border edge)) := by
  refine ⟨⟨?_, ?_⟩, ?_⟩
  · rintro low high ⟨_, rfl⟩
    exact Nat.le_refl low
  · rintro low high ⟨_, rfl⟩ within
    exact within
  · intro starts _ position
    rw [reach, List.mem_filter]
    constructor
    · rintro ⟨listed, holds⟩
      exact ⟨position, listed, holds, rfl⟩
    · rintro ⟨start, listed, holds, rfl⟩
      exact ⟨listed, holds⟩

variable {text : Array Char} {first second body : Pattern}

theorem sequence (one : Realizes text.size (reach text first) (Spans text first))
    (two : Realizes text.size (reach text second) (Spans text second)) :
    Realizes text.size (reach text (.sequence first second))
      (Spans text (.sequence first second)) := by
  refine ⟨⟨?_, ?_⟩, ?_⟩
  · rintro low high ⟨middle, before, after⟩
    exact Nat.le_trans (one.onward.le before) (two.onward.le after)
  · rintro low high ⟨middle, before, after⟩ within
    exact two.onward.inside after (one.onward.inside before within)
  · intro starts within position
    rw [reach, two.mem_iff (one.inside within)]
    simp only [one.mem_iff within, Spans]
    constructor
    · rintro ⟨middle, ⟨start, listed, before⟩, after⟩
      exact ⟨start, listed, middle, before, after⟩
    · rintro ⟨start, listed, middle, before, after⟩
      exact ⟨middle, ⟨start, listed, before⟩, after⟩

theorem choice (one : Realizes text.size (reach text first) (Spans text first))
    (two : Realizes text.size (reach text second) (Spans text second)) :
    Realizes text.size (reach text (.choice first second))
      (Spans text (.choice first second)) := by
  refine ⟨⟨?_, ?_⟩, ?_⟩
  · rintro low high (left | right)
    · exact one.onward.le left
    · exact two.onward.le right
  · rintro low high (left | right) within
    · exact one.onward.inside left within
    · exact two.onward.inside right within
  · intro starts within position
    simp only [reach, List.mem_append, List.mem_filter, Bool.not_eq_true',
      List.contains_eq_mem, decide_eq_false_iff_not, one.mem_iff within, two.mem_iff within,
      Spans]
    constructor
    · rintro (⟨start, listed, left⟩ | ⟨⟨start, listed, right⟩, _⟩)
      · exact ⟨start, listed, .inl left⟩
      · exact ⟨start, listed, .inr right⟩
    · rintro ⟨start, listed, holds⟩
      by_cases left : ∃ start ∈ starts, Spans text first start position
      · exact .inl left
      · rcases holds with one | right
        · exact .inl ⟨start, listed, one⟩
        · exact .inr ⟨⟨start, listed, right⟩, left⟩

theorem mem_repeated_iff (each : Realizes text.size (reach text body) (Spans text body))
    (least : Nat) (most : Option Nat) {starts : List Nat}
    (within : ∀ start ∈ starts, start <= text.size) (position : Nat) :
    position ∈ reach text (.repeated body least most) starts <->
      ∃ start ∈ starts, Spans text (.repeated body least most) start position := by
  have needed := each.iterated (min least (text.size + 1))
  have frontier : Frontier text.size (Spans text body)
      (iterate (reach text body) (min least (text.size + 1)) starts)
      (iterate (reach text body) (min least (text.size + 1)) starts) :=
    ⟨needed.inside within, List.Subset.refl _, fun start listed fresh => absurd listed fresh⟩
  unfold reach
  rw [each.mem_spread_iff _ frontier]
  simp only [needed.mem_iff within, Spans]
  constructor
  · rintro ⟨further, few, middle, ⟨start, listed, before⟩, after⟩
    rw [times_min each.onward (within start listed)] at before
    refine ⟨start, listed, further, ?_, (times_add _ _ _ _).mpr ⟨middle, before, after⟩⟩
    rintro bound rfl
    exact Nat.le_trans few (Nat.min_le_left _ _)
  · rintro ⟨start, listed, further, bounded, rounds⟩
    rcases (times_add _ _ _ _).mp rounds with ⟨middle, before, after⟩
    have start_within := within start listed
    have middle_within := (each.onward.times _).inside before start_within
    rw [← times_min each.onward start_within] at before
    rw [← times_min each.onward middle_within] at after
    refine ⟨min further (text.size + 1), ?_, middle, ⟨start, listed, before⟩, after⟩
    cases most with
    | none => exact Nat.min_le_right _ _
    | some bound =>
        have few := bounded bound rfl
        simp only
        omega

theorem repeated (each : Realizes text.size (reach text body) (Spans text body))
    (least : Nat) (most : Option Nat) :
    Realizes text.size (reach text (.repeated body least most))
      (Spans text (.repeated body least most)) := by
  refine ⟨⟨?_, ?_⟩, each.mem_repeated_iff least most⟩
  · rintro low high ⟨further, _, rounds⟩
    exact (each.onward.times _).le rounds
  · rintro low high ⟨further, _, rounds⟩ within
    exact (each.onward.times _).inside rounds within

end Realizes

end Pattern
end ItemModels

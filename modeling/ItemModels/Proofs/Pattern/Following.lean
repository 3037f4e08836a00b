import ItemModels.Pattern.Options
import Mathlib.Data.List.Infix
import Mathlib.Data.List.TakeWhile

namespace ItemModels
namespace Pattern

/-!
# What follows a text

Readers take some of a text and leave the rest.  Here the question is what changes
when more is put after the text, namely a closing parenthesis and perhaps dollar
signs.  A reader may take what it took before and leave the rest with the addition.
It may have come to the end of the text inside a comment, and then the addition
belongs to the comment and is not seen.  And a reader that refused the text, since
the text ended too early, may go on into the addition.

`Local` collects readers for which there are only these three cases.  A sequence of
such readers is such a reader again.
-/

/-- What may follow: a closing parenthesis and then nothing but dollar signs. -/
def Closing (tail : List Char) : Prop :=
  ∃ more, tail = ')' :: more ∧ ∀ letter ∈ more, letter = '$'

theorem Closing.not_mem {tail : List Char} {letter : Char} (closing : Closing tail)
    (noParenthesis : letter ≠ ')') (noDollar : letter ≠ '$') : letter ∉ tail := by
  rcases closing with ⟨more, rfl, dollars⟩
  intro listed
  rcases List.mem_cons.mp listed with rfl | later
  · exact noParenthesis rfl
  · exact noDollar (dollars letter later)

section Readers

variable {Value Result : Type}

/-- How a reader goes on when something follows.  If it refused the text alone, it may go on only
by taking at least some number of characters of what follows. -/
inductive Follows (taken : Nat) (alone : Option (Value × List Char))
    (followed : List Char -> Option (Value × List Char)) : Prop where
  | kept {value : Value} {after : List Char} (read : alone = some (value, after))
      (same : ∀ tail, Closing tail -> followed tail = some (value, after ++ tail))
  | unseen {value : Value} (read : alone = some (value, []))
      (same : ∀ tail, Closing tail -> followed tail = some (value, []))
  | refused (read : alone = none)
      (beyond : ∀ tail, Closing tail -> ∀ value after, followed tail = some (value, after) ->
        after <:+ tail.drop taken)

/-- A reader that leaves the end of its text and sees what follows only as its text ends. -/
structure Local (taken : Nat) (read : List Char -> Option (Value × List Char)) : Prop where
  suffix : ∀ {letters value after}, read letters = some (value, after) -> after <:+ letters
  follows : ∀ letters, Follows taken (read letters) fun tail => read (letters ++ tail)

variable {taken : Nat} {alone : Option (Value × List Char)}
  {followed other : List Char -> Option (Value × List Char)}
  {read : List Char -> Option (Value × List Char)}

theorem Follows.congr (first : Follows taken alone followed)
    (same : ∀ tail, Closing tail -> other tail = followed tail) : Follows taken alone other := by
  cases first with
  | kept read kept =>
      exact .kept read fun tail closing => (same tail closing).trans (kept tail closing)
  | unseen read unseen =>
      exact .unseen read fun tail closing => (same tail closing).trans (unseen tail closing)
  | refused read beyond =>
      refine .refused read fun tail closing value after went => ?_
      exact beyond tail closing value after ((same tail closing).symm.trans went)

/-- A value that was read before, with what is left of the text. -/
theorem Follows.left (choice : Option Value) (after : List Char) :
    Follows taken (choice.map fun value => (value, after)) fun tail =>
      choice.map fun value => (value, after ++ tail) := by
  cases choice with
  | none => exact .refused rfl nofun
  | some value => exact .kept rfl fun tail _ => rfl

theorem Follows.map (first : Follows taken alone followed) (change : Value -> Result) :
    Follows taken (alone.map fun result => (change result.1, result.2)) fun tail =>
      (followed tail).map fun result => (change result.1, result.2) := by
  cases first with
  | kept read same =>
      rw [read]
      refine .kept rfl fun tail closing => ?_
      rw [same tail closing]
      rfl
  | unseen read same =>
      rw [read]
      refine .unseen rfl fun tail closing => ?_
      rw [same tail closing]
      rfl
  | refused read beyond =>
      rw [read]
      refine .refused rfl fun tail closing value after went => ?_
      rcases Option.map_eq_some_iff.mp went with ⟨result, found, ⟨⟩⟩
      exact beyond tail closing _ _ found

/-- A reader that takes some of what follows in any case takes none of it in particular. -/
theorem Follows.loosen (first : Follows taken alone followed) : Follows 0 alone followed := by
  cases first with
  | kept read kept => exact .kept read kept
  | unseen read unseen => exact .unseen read unseen
  | refused read beyond =>
      refine .refused read fun tail closing value after went => ?_
      exact (beyond tail closing value after went).trans (List.drop_suffix _ _)

namespace Local

theorem loosen (first : Local taken read) : Local 0 read :=
  ⟨first.suffix, fun letters => (first.follows letters).loosen⟩

theorem congr {same : List Char -> Option (Value × List Char)} (first : Local taken read)
    (equal : ∀ letters, same letters = read letters) : Local taken same := by
  rwa [funext equal]

theorem done (value : Value) : Local taken fun letters => some (value, letters) := by
  refine ⟨?_, fun letters => .kept rfl fun tail _ => rfl⟩
  rintro letters _ _ ⟨⟩
  exact List.suffix_refl letters

theorem nothing : Local taken fun _ => (none : Option (Value × List Char)) :=
  ⟨nofun, fun _ => .refused rfl nofun⟩

/-- Where no text is left, nothing that follows is seen either. -/
theorem follows_nil (first : Local taken read) : Follows taken (read []) fun _ => read [] := by
  cases found : read [] with
  | none => exact .refused rfl nofun
  | some result =>
      have nothingLeft := List.suffix_nil.mp (first.suffix found)
      have ends : some result = some (result.1, []) := by rw [← nothingLeft]
      exact .unseen ends fun _ _ => ends

theorem bind (first : Local taken read) (next : Value -> List Char -> Option (Result × List Char))
    (second : ∀ value, Local taken (next value)) :
    Local taken fun letters => (read letters).bind fun result => next result.1 result.2 := by
  constructor
  · intro letters value after went
    rcases Option.bind_eq_some_iff.mp went with ⟨result, found, rest⟩
    exact ((second result.1).suffix rest).trans (first.suffix found)
  · intro letters
    cases first.follows letters with
    | kept found same =>
        rw [found]
        apply ((second _).follows _).congr
        intro tail closing
        rw [same tail closing]
        rfl
    | unseen found same =>
        rw [found]
        apply (second _).follows_nil.congr
        intro tail closing
        rw [same tail closing]
        rfl
    | refused found beyond =>
        rw [found]
        refine .refused rfl fun tail closing value after went => ?_
        rcases Option.bind_eq_some_iff.mp went with ⟨result, found, rest⟩
        exact ((second result.1).suffix rest).trans (beyond tail closing _ _ found)

/-- A value that was read before may be refused. -/
theorem given {Other : Type} (choice : Option Other) (value : Other -> Value) :
    Local taken fun letters => choice.bind fun chosen => some (value chosen, letters) := by
  cases choice with
  | none => exact nothing
  | some chosen => exact done (value chosen)

theorem map (first : Local taken read) (change : Value -> Result) :
    Local taken fun letters => (read letters).map fun result => (change result.1, result.2) := by
  refine ⟨?_, fun letters => (first.follows letters).map change⟩
  intro letters value after went
  rcases Option.map_eq_some_iff.mp went with ⟨result, found, ⟨⟩⟩
  exact first.suffix found

/-- A reader that needs a character takes the first of what follows. -/
theorem next (few : taken <= 1) (nil : read [] = none)
    (each : ∀ letter, Local taken fun rest => read (letter :: rest)) : Local taken read := by
  constructor
  · intro letters value after went
    cases letters with
    | nil => cases nil.symm.trans went
    | cons letter rest => exact ((each letter).suffix went).trans (List.suffix_cons letter rest)
  · intro letters
    cases letters with
    | nil =>
        refine .refused nil fun tail closing value after went => ?_
        rcases closing with ⟨more, rfl, _⟩
        exact ((each ')').suffix went).trans (List.drop_suffix_drop_left (')' :: more) few)
    | cons letter rest => exact (each letter).follows rest

/-- Some first characters, none of them a parenthesis, have a reader of their own for what comes
after them. -/
theorem dispatch {plain : List Char -> Option (Value × List Char)} (second : Local taken plain)
    (each : ∀ letter, (letter ≠ ')' ∧ Local taken fun rest => read (letter :: rest)) ∨
      ∀ rest, read (letter :: rest) = plain (letter :: rest))
    (nil : read [] = plain []) : Local taken read := by
  constructor
  · intro letters value after went
    rcases letters with _ | ⟨letter, rest⟩
    · exact second.suffix (nil.symm.trans went)
    · rcases each letter with ⟨_, own⟩ | plainly
      · exact (own.suffix went).trans (List.suffix_cons letter rest)
      · exact second.suffix ((plainly rest).symm.trans went)
  · intro letters
    rcases letters with _ | ⟨letter, rest⟩
    · rw [nil]
      apply (second.follows []).congr
      rintro _ ⟨more, rfl, _⟩
      rcases each ')' with ⟨different, _⟩ | plainly
      · exact absurd rfl different
      · exact plainly more
    · rcases each letter with ⟨_, own⟩ | plainly
      · exact own.follows rest
      · rw [plainly]
        exact (second.follows (letter :: rest)).congr fun tail _ => plainly _

/-- A mark other than a parenthesis decides between two readers. -/
theorem peek {marked plain : List Char -> Option (Value × List Char)} (mark : Char)
    (different : mark ≠ ')') (first : Local taken marked) (second : Local taken plain)
    (withMark : ∀ rest, read (mark :: rest) = marked rest)
    (without : ∀ letters, letters.head? ≠ some mark -> read letters = plain letters) :
    Local taken read := by
  refine second.dispatch (fun letter => ?_) (without [] nofun)
  by_cases marks : letter = mark
  · subst marks
    exact .inl ⟨different, first.congr withMark⟩
  · exact .inr fun rest => without _ (by simpa using marks)

end Local

/-- A reader that does not see at all what follows. -/
structure Exact (read : List Char -> Option (Value × List Char)) : Prop where
  suffix : ∀ {letters value after}, read letters = some (value, after) -> after <:+ letters
  append : ∀ letters tail, Closing tail -> read (letters ++ tail) =
    (read letters).map fun result => (result.1, result.2 ++ tail)

namespace Exact

theorem nothing : Exact fun _ => (none : Option (Value × List Char)) :=
  ⟨nofun, fun _ _ _ => rfl⟩

theorem done (value : Value) : Exact fun letters => some (value, letters) := by
  refine ⟨?_, fun _ _ _ => rfl⟩
  rintro letters _ _ ⟨⟩
  exact List.suffix_refl letters

/-- A mark other than a parenthesis decides between two readers. -/
theorem peek {marked plain : List Char -> Option (Value × List Char)} (mark : Char)
    (different : mark ≠ ')') (first : Exact marked) (second : Exact plain)
    (withMark : ∀ rest, read (mark :: rest) = marked rest)
    (without : ∀ letters, letters.head? ≠ some mark -> read letters = plain letters) :
    Exact read := by
  constructor
  · intro letters value after went
    by_cases marks : letters.head? = some mark
    · rcases List.head?_eq_some_iff.mp marks with ⟨rest, rfl⟩
      rw [withMark] at went
      exact (first.suffix went).trans (List.suffix_cons mark rest)
    · rw [without letters marks] at went
      exact second.suffix went
  · intro letters tail closing
    by_cases marks : letters.head? = some mark
    · rcases List.head?_eq_some_iff.mp marks with ⟨rest, rfl⟩
      rw [List.cons_append, withMark, withMark, first.append rest tail closing]
    · have unmarked : (letters ++ tail).head? ≠ some mark := by
        rcases closing with ⟨more, rfl, _⟩
        cases letters with
        | nil => simpa using Ne.symm different
        | cons letter rest => exact marks
      rw [without _ unmarked, without _ marks, second.append letters tail closing]

/-- Such a reader may be tried before another one, and what it read decides how to go on. -/
theorem elim (exact : Exact read) (next : Value -> List Char -> Option (Result × List Char))
    {second : List Char -> Option (Result × List Char)} (found : ∀ value, Local taken (next value))
    (other : Local taken second) :
    Local taken fun letters =>
      (read letters).elim (second letters) fun result => next result.1 result.2 := by
  constructor
  · intro letters value after went
    cases tried : read letters with
    | some result =>
        rw [tried] at went
        exact ((found result.1).suffix went).trans (exact.suffix tried)
    | none =>
        rw [tried] at went
        exact other.suffix went
  · intro letters
    cases tried : read letters with
    | some result =>
        apply ((found result.1).follows result.2).congr
        intro tail closing
        rw [exact.append letters tail closing, tried]
        rfl
    | none =>
        apply (other.follows letters).congr
        intro tail closing
        rw [exact.append letters tail closing, tried]
        rfl

theorem or {second : List Char -> Option (Value × List Char)} (exact : Exact read)
    (other : Local taken second) :
    Local taken fun letters => (read letters).or (second letters) :=
  (exact.elim (fun value letters => some (value, letters)) .done other).congr fun letters => by
    cases read letters <;> rfl

theorem map (exact : Exact read) (change : Value -> Result) :
    Exact fun letters => (read letters).map fun result => (change result.1, result.2) := by
  constructor
  · intro letters value after went
    rcases Option.map_eq_some_iff.mp went with ⟨result, found, same⟩
    cases same
    exact exact.suffix found
  · intro letters tail closing
    rw [exact.append letters tail closing, Option.map_map, Option.map_map]
    rfl

theorem toLocal (exact : Exact read) : Local taken read := by
  apply (exact.or .nothing).congr
  intro letters
  rw [Option.or_none]

end Exact
end Readers

/-! ## Up to a mark -/

section Marks

variable {mark : Char} {letters : List Char}

theorem dropWhile_eq_nil_of_not_mem (absent : mark ∉ letters) :
    letters.dropWhile (fun letter => letter != mark) = [] := by
  rw [List.dropWhile_eq_nil_iff]
  intro letter listed
  exact bne_iff_ne.mpr fun same => absent (same ▸ listed)

theorem takeWhile_append_of_mem (present : mark ∈ letters) (tail : List Char) :
    (letters ++ tail).takeWhile (fun letter => letter != mark) =
      letters.takeWhile fun letter => letter != mark := by
  induction letters with
  | nil => cases present
  | cons letter rest inductionHypothesis =>
      rw [List.cons_append, List.takeWhile_cons, List.takeWhile_cons]
      by_cases same : letter = mark
      · simp [same]
      · rw [inductionHypothesis ((List.mem_cons.mp present).resolve_left (Ne.symm same))]

theorem dropWhile_append_of_mem (present : mark ∈ letters) (tail : List Char) :
    (letters ++ tail).dropWhile (fun letter => letter != mark) =
      letters.dropWhile (fun letter => letter != mark) ++ tail := by
  induction letters with
  | nil => cases present
  | cons letter rest inductionHypothesis =>
      rw [List.cons_append, List.dropWhile_cons, List.dropWhile_cons]
      by_cases same : letter = mark
      · simp [same]
      · rw [inductionHypothesis ((List.mem_cons.mp present).resolve_left (Ne.symm same))]
        simp [same]

end Marks

/-! ## Blanks and comments -/

namespace Options

variable (options : Options) (test : Char -> Bool)

/-- A character is passed over, taken or left. -/
theorem take_cons_cases (inComment : Bool) (letter : Char) :
    (∃ still, ∀ rest, options.take test inComment (letter :: rest) = options.take test still rest) ∨
    (∀ rest, options.take test inComment (letter :: rest) =
      (letter :: (options.take test false rest).1, (options.take test false rest).2)) ∨
    ∀ rest, options.take test inComment (letter :: rest) = ([], letter :: rest) := by
  by_cases comment : inComment = true
  · exact .inl ⟨letter != '\n', fun rest => by rw [take, if_pos comment]⟩
  · by_cases blank : (options.spaced && Text.CharClass.space.has letter) = true
    · exact .inl ⟨false, fun rest => by rw [take, if_neg comment, if_pos blank]⟩
    · by_cases hash : (options.spaced && letter == '#') = true
      · exact .inl ⟨true, fun rest => by rw [take, if_neg comment, if_neg blank, if_pos hash]⟩
      · by_cases passes : test letter = true
        · refine .inr (.inl fun rest => ?_)
          rw [take, if_neg comment, if_neg blank, if_neg hash, if_pos passes]
        · refine .inr (.inr fun rest => ?_)
          rw [take, if_neg comment, if_neg blank, if_neg hash, if_neg passes]

theorem take_suffix (inComment : Bool) (letters : List Char) :
    (options.take test inComment letters).2 <:+ letters := by
  induction letters generalizing inComment with
  | nil => exact List.suffix_refl []
  | cons letter rest inductionHypothesis =>
      rcases options.take_cons_cases test inComment letter with ⟨still, passed⟩ | taken | left
      · rw [passed]
        exact (inductionHypothesis still).trans (List.suffix_cons letter rest)
      · rw [taken]
        exact (inductionHypothesis false).trans (List.suffix_cons letter rest)
      · rw [left]

theorem take_comment {letters : List Char} (noBreak : '\n' ∉ letters) :
    options.take test true letters = ([], []) := by
  induction letters with
  | nil => rfl
  | cons letter rest inductionHypothesis =>
      rw [List.mem_cons, not_or] at noBreak
      have goesOn : (letter != '\n') = true := by simpa using Ne.symm noBreak.1
      rw [take, if_pos rfl, goesOn, inductionHypothesis noBreak.2]

/-- The parenthesis is not white space. -/
theorem space_closing : Text.CharClass.space.has ')' = false := by decide +kernel

theorem take_closing (refuses : test ')' = false) {tail : List Char} (closing : Closing tail) :
    options.take test false tail = ([], tail) := by
  rcases closing with ⟨more, rfl, _⟩
  simp [take, space_closing, refuses]

/-- What was left of a text is left with what follows it. -/
theorem take_append (inComment : Bool) {letters : List Char} (tail : List Char)
    (some_left : (options.take test inComment letters).2 ≠ []) :
    options.take test inComment (letters ++ tail) =
      ((options.take test inComment letters).1,
        (options.take test inComment letters).2 ++ tail) := by
  induction letters generalizing inComment with
  | nil => exact absurd rfl some_left
  | cons letter rest inductionHypothesis =>
      rw [List.cons_append]
      rcases options.take_cons_cases test inComment letter with ⟨still, passed⟩ | taken | left
      · rw [passed] at some_left
        rw [passed, passed, inductionHypothesis still some_left]
      · rw [taken] at some_left
        rw [taken, taken, inductionHypothesis false some_left]
      · rw [left, left, List.cons_append]

/-- What follows is taken from only when nothing was left. -/
theorem take_append_suffix (inComment : Bool) {letters : List Char} (tail : List Char)
    (none_left : (options.take test inComment letters).2 = []) :
    (options.take test inComment (letters ++ tail)).2 <:+ tail := by
  induction letters generalizing inComment with
  | nil => exact options.take_suffix test inComment tail
  | cons letter rest inductionHypothesis =>
      rw [List.cons_append]
      rcases options.take_cons_cases test inComment letter with ⟨still, passed⟩ | taken | left
      · rw [passed] at none_left ⊢
        exact inductionHypothesis still none_left
      · rw [taken] at none_left ⊢
        exact inductionHypothesis false none_left
      · rw [left] at none_left
        cases none_left

/-- A test that refuses the parenthesis ends before it, unless a comment goes on into it. -/
theorem local_take (taken : Nat) (refuses : test ')' = false) :
    Local taken fun letters => some (options.take test false letters) := by
  have each (inComment : Bool) (letters : List Char) :
      Follows taken (some (options.take test inComment letters)) fun tail =>
        some (options.take test inComment (letters ++ tail)) := by
    induction letters generalizing inComment with
    | nil =>
        cases inComment with
        | false =>
            refine .kept rfl fun tail closing => ?_
            rw [List.nil_append, take_closing options test refuses closing]
        | true =>
            refine .unseen rfl fun tail closing => ?_
            rw [List.nil_append, take_comment _ _ (closing.not_mem (by decide) (by decide))]
    | cons letter rest inductionHypothesis =>
        simp only [List.cons_append]
        rcases options.take_cons_cases test inComment letter with ⟨still, passed⟩ | taken | left
        · simp only [passed]
          exact inductionHypothesis still
        · simp only [taken]
          cases inductionHypothesis false with
          | kept read same =>
              refine .kept (by rw [Option.some.inj read]) fun tail closing => ?_
              rw [Option.some.inj (same tail closing)]
          | unseen read same =>
              refine .unseen (by rw [Option.some.inj read]) fun tail closing => ?_
              rw [Option.some.inj (same tail closing)]
          | refused read => cases read
        · simp only [left]
          exact .kept rfl fun tail _ => rfl
  refine ⟨?_, each false⟩
  rintro letters value after went
  have left : (options.take test false letters).2 = after :=
    congrArg Prod.snd (Option.some.inj went)
  rw [← left]
  exact options.take_suffix test false letters

/-- The next significant character is the same, whatever follows.  At the end of a text it is the
first of what follows, unless a comment goes on into it. -/
theorem advance_append (letters : List Char) :
    (∀ tail, Closing tail -> options.advance (letters ++ tail) = options.advance letters ++ tail) ∨
    (options.advance letters = [] ∧
      ∀ tail, Closing tail -> options.advance (letters ++ tail) = []) := by
  cases (options.local_take (fun _ => false) 0 rfl).follows letters with
  | kept read same =>
      left
      intro tail closing
      rw [advance, advance, Option.some.inj read, Option.some.inj (same tail closing)]
  | unseen read same =>
      right
      constructor
      · rw [advance, Option.some.inj read]
      · intro tail closing
        rw [advance, Option.some.inj (same tail closing)]
  | refused read => cases read

theorem advance_closing {tail : List Char} (closing : Closing tail) :
    options.advance tail = tail := by
  rw [advance, options.take_closing _ rfl closing]

theorem advance_suffix (letters : List Char) : options.advance letters <:+ letters :=
  options.take_suffix _ false letters

end Options

theorem Local.advanced {Value : Type} {taken : Nat} {read : List Char -> Option (Value × List Char)}
    (options : Options) (first : Local taken read) :
    Local taken fun letters => read (options.advance letters) :=
  (options.local_take (fun _ => false) taken rfl).bind (fun _ => read) fun _ => first

/-- A reader that needs a significant character. -/
theorem Local.onNext {Value : Type} {options : Options}
    {each : Char -> List Char -> Option (Value × List Char)}
    (every : ∀ letter, Local 1 (each letter)) :
    Local 1 fun letters => match options.advance letters with
      | [] => none
      | letter :: rest => each letter rest := by
  have ahead : Local 1 fun letters => match letters with
      | [] => none
      | letter :: rest => each letter rest := .next (Nat.le_refl 1) rfl every
  exact ahead.advanced options

end Pattern
end ItemModels

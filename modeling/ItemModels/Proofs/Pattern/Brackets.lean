import ItemModels.Pattern.Bracket
import ItemModels.Proofs.Pattern.Escapes

namespace ItemModels
namespace Pattern

/-!
# Brackets and what follows them

A bracket ends with the bracket that closes it, and no such bracket stands in what
may follow a text.  So a bracket that the text leaves open stays open, although its
items may well go on into what follows: reading a single item gives less than reading
a whole bracket.
-/

variable {taken : Nat} (options : Options)

/-! ## Named classes and operators -/

/-- Reads the name of a class up to the closing marks. -/
def readClassName (negated : Bool) (body : List Char) : Option (Option DeepSet × List Char) :=
  match body.dropWhile fun letter => letter != ':' with
  | ':' :: ']' :: after =>
      let name := String.ofList (body.takeWhile fun letter => letter != ':')
      (asciiClasses.find? fun entry => entry.1 == name).map fun entry =>
        ((options.written? negated entry.2).map fun set => ⟨set, 0⟩, after)
  | _ => none

theorem exact_readClassName (negated : Bool) : Exact (readClassName options negated) := by
  constructor
  · intro body value after read
    unfold readClassName at read
    split at read
    · rename_i rest found
      rcases Option.map_eq_some_iff.mp read with ⟨entry, _, same⟩
      cases same
      have left := List.dropWhile_suffix (fun letter => letter != ':') (l := body)
      rw [found] at left
      exact (List.suffix_append [':', ']'] _).trans left
    · cases read
  · intro body tail closing
    by_cases present : ':' ∈ body
    · rw [readClassName, readClassName, dropWhile_append_of_mem present,
        takeWhile_append_of_mem present]
      rcases closing with ⟨more, rfl, _⟩
      rcases body.dropWhile fun letter => letter != ':' with _ | ⟨first, _ | ⟨second, others⟩⟩
      · rfl
      · simp
      · by_cases closes : first = ':' ∧ second = ']'
        · rcases closes with ⟨rfl, rfl⟩
          simp only [List.cons_append, Option.map_map]
          rfl
        · split
          · simp_all
          · split
            · simp_all
            · rfl
    · have absent : ':' ∉ body ++ tail := by
        rw [List.mem_append, not_or]
        exact ⟨present, closing.not_mem (by decide) (by decide)⟩
      rw [readClassName, readClassName, dropWhile_eq_nil_of_not_mem present,
        dropWhile_eq_nil_of_not_mem absent]
      rfl

theorem exact_readAsciiClass : Exact (readAsciiClass? options) := by
  have body : Exact fun rest => readAsciiClass? options (':' :: rest) := by
    refine .peek '^' (by decide) (exact_readClassName options true)
      (exact_readClassName options false) (fun _ => rfl) fun rest unmarked => ?_
    rw [readAsciiClass?]
    · rfl
    · rintro others rfl
      exact unmarked rfl
  refine .peek ':' (by decide) body .nothing (fun _ => rfl) fun letters unmarked => ?_
  unfold readAsciiClass?
  split
  · exact absurd rfl unmarked
  · rfl

theorem exact_operator (letter : Char) : Exact fun rest => operator? (letter :: rest) := by
  constructor
  · intro rest operator after read
    unfold operator? at read
    split at read
    case h_4 => cases read
    all_goals
      rename_i same
      cases same
      cases read
      exact List.suffix_cons _ _
  · rintro rest _ ⟨more, rfl, _⟩
    cases rest with
    | nil => simp [operator?]
    | cons second others =>
        simp only [operator?, List.cons_append]
        split <;> simp_all

/-! ## Opening a bracket -/

/-- The first items of a bracket, after its caret. -/
def openItems (negated : Bool) (hyphens rest : List Char) : (Bool × List DeepSet) × List Char :=
  match hyphens, rest with
  | [], ']' :: after => ((negated, [.single ']']), after)
  | _, _ => ((negated, hyphens.map DeepSet.single), rest)

theorem local_openItems (negated : Bool) (hyphens : List Char) :
    Local taken fun rest => some (openItems negated hyphens rest) := by
  cases hyphens with
  | nil =>
      refine .peek ']' (by decide) (.done (negated, [.single ']'])) (.done (negated, []))
        (fun _ => rfl) fun letters unmarked => ?_
      rw [openItems]
      · rfl
      · rintro rest _ rfl
        exact unmarked rfl
  | cons hyphen others => exact .done _

/-- How a bracket begins, with what is left of the text. -/
def opened (letters : List Char) : (Bool × List DeepSet) × List Char :=
  (((openBracket options letters).1, (openBracket options letters).2.1),
    (openBracket options letters).2.2)

/-- Whether a caret negates the bracket, and the text after it. -/
def afterCaret (letters : List Char) : Bool × List Char :=
  match options.advance letters with
  | '^' :: rest => (true, options.advance rest)
  | rest => (false, rest)

theorem opened_eq (letters : List Char) :
    let (negated, body) := afterCaret options letters
    let (hyphens, rest) := options.take (fun letter => letter == '-') false body
    opened options letters = openItems negated hyphens rest := by
  dsimp only
  rw [opened, openBracket]
  dsimp only
  split
  · rename_i nothing closing
    have hyphens : (options.take _ false (afterCaret options letters).2).1 = [] := nothing
    have rest : (options.take _ false (afterCaret options letters).2).2 = ']' :: _ := closing
    rw [hyphens, rest]
    rfl
  · rename_i others
    rw [openItems]
    · rfl
    · exact others

theorem local_opened : Local taken fun letters => some (opened options letters) := by
  have caret : Local taken fun letters => some (afterCaret options letters) := by
    have ahead : Local taken fun letters => match letters with
        | '^' :: rest => some (true, options.advance rest)
        | rest => some (false, rest) := by
      refine .peek '^' (by decide) ((Local.done true).advanced options) (.done false)
        (fun _ => rfl) fun letters unmarked => ?_
      split
      · exact absurd rfl unmarked
      · rfl
    apply (ahead.advanced options).congr
    intro letters
    rw [afterCaret]
    split <;> rfl
  have body (negated : Bool) : Local taken fun letters =>
      (some (options.take (fun letter => letter == '-') false letters)).bind fun result =>
        some (openItems negated result.1 result.2) :=
    (options.local_take _ taken (by decide)).bind
      (fun hyphens rest => some (openItems negated hyphens rest)) (local_openItems negated)
  apply (caret.bind _ body).congr
  intro letters
  exact congrArg some (opened_eq options letters)

/-! ## Items -/

/-- Reads an atom that may stand in a bracket. -/
def readMember (letters : List Char) : Option (Atom × List Char) :=
  (readAtom options letters).bind fun result =>
    result.1.inBracket?.bind fun atom => some (atom, result.2)

theorem local_readMember (letter : Char) :
    Local 1 fun rest => readMember options (letter :: rest) := by
  by_cases escape : letter = '\\'
  · subst escape
    exact local_readEscape_inBracket options
  · refine (Local.done (Atom.letter letter)).congr fun rest => ?_
    rw [readMember, readAtom]
    · rfl
    · exact escape

/-- Reads the upper end of a range and gives the range. -/
def readRange (first : Atom) (upper : List Char) : Option (DeepSet × List Char) :=
  (readMember options upper).bind fun result =>
    (range? options first result.1).bind fun item => some (item, result.2)

theorem local_readRange (first : Atom) (letter : Char) :
    Local 1 fun rest => readRange options first (letter :: rest) :=
  (local_readMember options letter).bind
    (fun last after => (range? options first last).bind fun item => some (item, after))
    fun _ => .given _ id

theorem readAtom_range (first : Atom) (upper : List Char) :
    (do
      let (last, after) <- readAtom options upper
      let item <- range? options first last
      some (item, after)) = readRange options first upper := by
  rw [readRange, readMember]
  cases readAtom options upper with
  | none => rfl
  | some result =>
      rcases result with ⟨last, after⟩
      cases last with
      | edge place => cases first <;> rfl
      | _ => rfl

/-- What an item is, once its first atom has been read. -/
def itemAfter (first : Atom) (rest : List Char) : Option (DeepSet × List Char) :=
  match options.advance rest with
  | '-' :: others =>
      match options.advance others with
      | [] => none
      | ']' :: _ => (first.item? options).map fun item => (item, '-' :: others)
      | '-' :: _ => (first.item? options).map fun item => (item, '-' :: others)
      | upper => readRange options first upper
  | [] => none
  | after => (first.item? options).map fun item => (item, after)

theorem itemAfter_edge (place : Edge) (rest : List Char) :
    itemAfter options (.edge place) rest = none := by
  have noRange (upper : List Char) : readRange options (.edge place) upper = none := by
    rw [readRange]
    cases readMember options upper <;> rfl
  rw [itemAfter]
  split
  · split <;> first | rfl | exact noRange _
  · rfl
  · rfl

theorem readItem_eq (letters : List Char) :
    readItem options letters =
      (readMember options letters).bind fun result => itemAfter options result.1 result.2 := by
  have unfolded : readItem options letters =
      (readAtom options letters).bind fun result => itemAfter options result.1 result.2 := by
    simp only [readItem, readAtom_range]
    rfl
  rw [unfolded, readMember]
  cases readAtom options letters with
  | none => rfl
  | some result =>
      rcases result with ⟨first, rest⟩
      cases first with
      | edge place => exact itemAfter_edge options place rest
      | _ => rfl

theorem itemAfter_congr {first : Atom} {rest others : List Char}
    (same : options.advance rest = options.advance others) :
    itemAfter options first rest = itemAfter options first others := by
  simp only [itemAfter, same]

theorem itemAfter_suffix {first : Atom} {rest after : List Char} {item : DeepSet}
    (read : itemAfter options first rest = some (item, after)) : after <:+ rest := by
  have range : Local 1 (readRange options first) :=
    .next (Nat.le_refl 1) rfl (local_readRange options first)
  apply List.IsSuffix.trans _ (options.advance_suffix rest)
  unfold itemAfter at read
  split at read
  · rename_i others ahead
    rw [ahead]
    split at read
    · cases read
    · rcases Option.map_eq_some_iff.mp read with ⟨_, _, ⟨⟩⟩
      exact List.suffix_refl _
    · rcases Option.map_eq_some_iff.mp read with ⟨_, _, ⟨⟩⟩
      exact List.suffix_refl _
    · have inside := (range.suffix read).trans (options.advance_suffix others)
      exact inside.trans (List.suffix_cons '-' others)
  · cases read
  · rcases Option.map_eq_some_iff.mp read with ⟨_, _, ⟨⟩⟩
    exact List.suffix_refl _

theorem itemAfter_single {first : Atom} {rest others : List Char} {head : Char}
    (ahead : options.advance rest = head :: others) (noHyphen : head ≠ '-') :
    itemAfter options first rest = (first.item? options).map fun item => (item, head :: others) := by
  unfold itemAfter
  split
  · rename_i found
    cases ahead.symm.trans found
    exact absurd rfl noHyphen
  · rename_i found
    cases ahead.symm.trans found
  · rw [ahead]

theorem itemAfter_beforeMark {first : Atom} {rest others more : List Char} {next : Char}
    (ahead : options.advance rest = '-' :: others) (upper : options.advance others = next :: more)
    (mark : next = ']' ∨ next = '-') :
    itemAfter options first rest = (first.item? options).map fun item => (item, '-' :: others) := by
  rcases mark with rfl | rfl <;> simp only [itemAfter, ahead, upper]

theorem itemAfter_range {first : Atom} {rest others more : List Char} {next : Char}
    (ahead : options.advance rest = '-' :: others) (upper : options.advance others = next :: more)
    (noMark : ¬ (next = ']' ∨ next = '-')) :
    itemAfter options first rest = readRange options first (next :: more) := by
  rw [not_or] at noMark
  unfold itemAfter
  simp only [ahead]
  split
  · rename_i found
    cases upper.symm.trans found
  · rename_i found
    cases upper.symm.trans found
    exact absurd rfl noMark.1
  · rename_i found
    cases upper.symm.trans found
    exact absurd rfl noMark.2
  · rw [upper]

theorem itemAfter_follows (first : Atom) (rest : List Char) :
    Follows 0 (itemAfter options first rest) fun tail =>
      itemAfter options first (rest ++ tail) := by
  rcases options.advance_append rest with same | ⟨ahead, unseen⟩
  · cases ahead : options.advance rest with
    | nil =>
        refine .refused (by simp only [itemAfter, ahead]) fun tail closing item after read => ?_
        have skipped : options.advance (rest ++ tail) = options.advance tail := by
          rw [same tail closing, ahead, List.nil_append, options.advance_closing closing]
        rw [itemAfter_congr options skipped] at read
        exact itemAfter_suffix options read
    | cons head others =>
        rw [ahead] at same
        by_cases hyphen : head = '-'
        · subst hyphen
          rcases options.advance_append others with again | ⟨upper, hidden⟩
          · cases upper : options.advance others with
            | nil =>
                refine .refused (by simp only [itemAfter, ahead, upper]) ?_
                intro tail closing item after read
                have reached := again tail closing
                rw [upper, List.nil_append] at reached
                have followed := same tail closing
                rcases closing with ⟨more, rfl, _⟩
                rw [itemAfter_range options followed reached (by decide)] at read
                have range := (local_readRange options first ')').suffix read
                exact range.trans (List.suffix_cons ')' more)
            | cons next more =>
                rw [upper] at again
                by_cases mark : next = ']' ∨ next = '-'
                · rw [itemAfter_beforeMark options ahead upper mark]
                  apply (Follows.left (first.item? options) ('-' :: others)).congr
                  intro tail closing
                  exact itemAfter_beforeMark options (same tail closing) (again tail closing) mark
                · rw [itemAfter_range options ahead upper mark]
                  apply ((local_readRange options first next).follows more).loosen.congr
                  intro tail closing
                  exact itemAfter_range options (same tail closing) (again tail closing) mark
          · refine .refused (by simp only [itemAfter, ahead, upper]) ?_
            intro tail closing item after read
            simp only [itemAfter, same tail closing, List.cons_append, hidden tail closing] at read
            cases read
        · rw [itemAfter_single options ahead hyphen]
          apply (Follows.left (first.item? options) (head :: others)).congr
          intro tail closing
          exact itemAfter_single options (same tail closing) hyphen
  · refine .refused (by simp only [itemAfter, ahead]) fun tail closing item after read => ?_
    simp only [itemAfter, unseen tail closing] at read
    cases read

/-- Reading an item may stop at the end of a text that has not closed its bracket. -/
theorem local_readItem (letter : Char) :
    Local 0 fun rest => readItem options (letter :: rest) := by
  have after (first : Atom) : Local 0 (itemAfter options first) :=
    ⟨itemAfter_suffix options, itemAfter_follows options first⟩
  apply ((local_readMember options letter).loosen.bind (itemAfter options) after).congr
  exact fun rest => readItem_eq options (letter :: rest)

/-! ## Whole brackets -/

/-- What a round of reading in a bracket comes to. -/
inductive BracketRound where
  | closed (content : DeepSet)
  | goesOn (waiting : List Waiting) (items : List DeepSet)

/-- What a closing bracket comes to, after the operand of a waiting operator has been settled. -/
def closeBracket? (content : DeepSet) : List Waiting -> Option BracketRound
  | .bracket _ negated :: [] => (content.bracketed? options negated).map .closed
  | .bracket before negated :: outer =>
      (content.bracketed? options negated).map fun item => .goesOn outer (item :: before)
  | _ => none

/-- Reads an operator, a bracket or an item that starts with the given character, or closes the
innermost bracket. -/
def readBracketPart (waiting : List Waiting) (items : List DeepSet) (letter : Char)
    (rest : List Char) : Option (BracketRound × List Char) :=
  if letter = '[' then
    (readAsciiClass? options rest).elim
      ((some (opened options rest)).map fun result =>
        (.goesOn (.bracket items result.1.1 :: waiting) result.1.2, result.2))
      fun result => result.1.bind fun item => some (.goesOn waiting (item :: items), result.2)
  else if letter = ']' then
    let (content, others) := settle options (.ofItems items) waiting
    (closeBracket? options content others).bind fun round => some (round, rest)
  else
    let (left, others) := settle options (.ofItems items) waiting
    ((operator? (letter :: rest)).map fun result =>
      (BracketRound.goesOn (.operand result.1 left :: others) [], result.2)).or
      ((readItem options (letter :: rest)).map fun result =>
        (.goesOn waiting (result.1 :: items), result.2))

/-- One round of reading in a bracket. -/
def readBracketRound (waiting : List Waiting) (items : List DeepSet) (letters : List Char) :
    Option (BracketRound × List Char) :=
  match options.advance letters with
  | [] => none
  | letter :: rest => readBracketPart options waiting items letter rest

theorem readBracketFrom_succ (rounds : Nat) (waiting : List Waiting) (items : List DeepSet)
    (letters : List Char) :
    readBracketFrom options (rounds + 1) waiting items letters =
      (readBracketRound options waiting items letters).bind fun result =>
        match result.1 with
        | .closed content => some (content, result.2)
        | .goesOn waiting items => readBracketFrom options rounds waiting items result.2 := by
  rw [readBracketFrom, readBracketRound]
  split
  · rename_i ahead
    rw [ahead]
    rfl
  · rename_i rest ahead
    rw [ahead]
    simp only [readBracketPart, if_true]
    rcases readAsciiClass? options rest with _ | ⟨_ | item, after⟩ <;> rfl
  · rename_i rest ahead
    rw [ahead]
    simp only [readBracketPart, if_true]
    rw [if_neg (by decide)]
    rcases settle options (.ofItems items) waiting with
      ⟨content, _ | ⟨⟨before, negated⟩ | ⟨operator, left⟩, _ | ⟨next, outer⟩⟩⟩
    case bracket.nil | bracket.cons =>
      cases closed : content.bracketed? options negated <;> simp [closeBracket?, closed]
    all_goals rfl
  · rename_i letter rest noOpening noClosing ahead
    rw [ahead]
    simp only [readBracketPart]
    rw [if_neg noOpening, if_neg noClosing]
    cases operator? (letter :: rest) with
    | some result => rfl
    | none => cases readItem options (letter :: rest) <;> rfl

theorem local_readBracketPart (waiting : List Waiting) (items : List DeepSet) (letter : Char) :
    Local 0 (readBracketPart options waiting items letter) := by
  by_cases opening : letter = '['
  · subst opening
    exact (exact_readAsciiClass options).elim
      (fun named after => named.bind fun item => some (.goesOn waiting (item :: items), after))
      (fun _ => .given _ _)
      ((local_opened options).map fun start =>
        BracketRound.goesOn (.bracket items start.1 :: waiting) start.2)
  · by_cases closing : letter = ']'
    · subst closing
      exact .given (closeBracket? options _ _) id
    · apply (((exact_operator letter).map fun operator => BracketRound.goesOn
        (.operand operator (settle options (.ofItems items) waiting).1 ::
          (settle options (.ofItems items) waiting).2) []).or
        ((local_readItem options letter).map fun item =>
          BracketRound.goesOn waiting (item :: items))).congr
      intro rest
      rw [readBracketPart, if_neg opening, if_neg closing]

theorem local_readBracketRound (waiting : List Waiting) (items : List DeepSet) :
    Local 0 (readBracketRound options waiting items) := by
  have ahead : Local 0 fun letters => match letters with
      | [] => none
      | letter :: rest => readBracketPart options waiting items letter rest :=
    .next (Nat.zero_le 1) rfl (local_readBracketPart options waiting items)
  exact ahead.advanced options

/-- Only a closing bracket ends a bracket. -/
theorem readBracketRound_closed_iff {waiting : List Waiting} {items : List DeepSet}
    {letters after : List Char} {content : DeepSet} :
    readBracketRound options waiting items letters = some (.closed content, after) <->
      options.advance letters = ']' :: after ∧
        closeBracket? options (settle options (.ofItems items) waiting).1
          (settle options (.ofItems items) waiting).2 = some (.closed content) := by
  unfold readBracketRound
  cases options.advance letters with
  | nil => simp
  | cons letter rest =>
      simp only [readBracketPart, List.cons.injEq]
      by_cases opening : letter = '['
      · rcases readAsciiClass? options rest with _ | ⟨_ | item, after⟩ <;> simp [opening]
      · by_cases closing : letter = ']'
        · simp only [closing, if_neg (show ']' ≠ '[' by decide), if_true, true_and]
          cases closeBracket? options (settle options (.ofItems items) waiting).1
            (settle options (.ofItems items) waiting).2 <;> simp [and_comm]
        · simp [opening, closing, Option.or_eq_some_iff]

/-- A text without a closing bracket closes none. -/
theorem readBracketFrom_eq_none {letters : List Char} (open_ : ']' ∉ letters) (rounds : Nat)
    (waiting : List Waiting) (items : List DeepSet) :
    readBracketFrom options rounds waiting items letters = none := by
  induction rounds generalizing waiting items letters with
  | zero => rfl
  | succ rounds inductionHypothesis =>
      rw [readBracketFrom_succ]
      cases read : readBracketRound options waiting items letters with
      | none => rfl
      | some result =>
          rcases result with ⟨content | ⟨waiting', items'⟩, after⟩
          · have ahead := ((readBracketRound_closed_iff options).mp read).1
            have left := options.advance_suffix letters
            rw [ahead] at left
            exact absurd (left.subset List.mem_cons_self) open_
          · have left := (local_readBracketRound options waiting items).suffix read
            exact inductionHypothesis (fun listed => open_ (left.subset listed)) waiting' items'

theorem readBracketFrom_suffix {rounds : Nat} {waiting : List Waiting} {items : List DeepSet}
    {letters after : List Char} {content : DeepSet}
    (read : readBracketFrom options rounds waiting items letters = some (content, after)) :
    after <:+ letters := by
  induction rounds generalizing waiting items letters with
  | zero => cases read
  | succ rounds inductionHypothesis =>
      rw [readBracketFrom_succ] at read
      rcases Option.bind_eq_some_iff.mp read with
        ⟨⟨content' | ⟨waiting', items'⟩, rest⟩, round, went⟩
      · cases went
        exact (local_readBracketRound options waiting items).suffix round
      · have left := (local_readBracketRound options waiting items).suffix round
        exact (inductionHypothesis went).trans left

/-- A round takes a character. -/
theorem readBracketRound_shorter {waiting : List Waiting} {items : List DeepSet}
    {letters after : List Char} {round : BracketRound}
    (read : readBracketRound options waiting items letters = some (round, after)) :
    after.length < letters.length := by
  have ahead_shorter := (options.advance_suffix letters).length_le
  unfold readBracketRound at read
  split at read
  · cases read
  · rename_i letter rest ahead
    rw [ahead, List.length_cons] at ahead_shorter
    have left := ((local_readBracketPart options waiting items letter).suffix read).length_le
    omega

/-- No bracket is closed by what follows the text. -/
theorem readBracketFrom_closing {tail after : List Char} (closing : Closing tail)
    (part : after <:+ tail) (rounds : Nat) (waiting : List Waiting) (items : List DeepSet) :
    readBracketFrom options rounds waiting items after = none := by
  apply readBracketFrom_eq_none
  exact fun listed => closing.not_mem (by decide) (by decide) (part.subset listed)

/-- A round that fails on the text alone does not close the bracket when something follows: the
closing bracket stands in the text, and so closes it alone. -/
theorem readBracketRound_ne_closed {waiting : List Waiting} {items : List DeepSet}
    {letters tail after : List Char} {content : DeepSet}
    (refused : readBracketRound options waiting items letters = none) (closing : Closing tail) :
    readBracketRound options waiting items (letters ++ tail) ≠ some (.closed content, after) := by
  intro found
  rcases (readBracketRound_closed_iff options).mp found with ⟨ahead, closes⟩
  rcases options.advance_append letters with same | ⟨_, unseen⟩
  · rw [same tail closing] at ahead
    rcases List.append_eq_cons_iff.mp ahead with ⟨_, starts⟩ | ⟨more, alone, _⟩
    · rcases closing with ⟨_, rfl, _⟩
      cases starts
    · cases refused.symm.trans ((readBracketRound_closed_iff options).mpr ⟨alone, closes⟩)
  · cases (unseen tail closing).symm.trans ahead

theorem readBracketFrom_follows {rounds : Nat} {letters : List Char}
    (enough : letters.length <= rounds) (waiting : List Waiting) (items : List DeepSet) :
    Follows 1 (readBracketFrom options rounds waiting items letters) fun tail =>
      readBracketFrom options (rounds + tail.length) waiting items (letters ++ tail) := by
  induction rounds generalizing waiting items letters with
  | zero =>
      have empty : letters = [] := List.length_eq_zero_iff.mp (Nat.le_zero.mp enough)
      refine .refused rfl fun tail closing content after read => ?_
      rw [empty, List.nil_append,
        readBracketFrom_closing options closing (List.suffix_refl tail)] at read
      cases read
  | succ rounds inductionHypothesis =>
      simp only [Nat.succ_add, readBracketFrom_succ]
      cases (local_readBracketRound options waiting items).follows letters with
      | kept read same =>
          rename_i round after
          have shorter := readBracketRound_shorter options read
          rw [read]
          cases round with
          | closed content =>
              refine .kept rfl fun tail closing => ?_
              rw [same tail closing]
              rfl
          | goesOn waiting items =>
              have fewer : after.length <= rounds := by omega
              apply (inductionHypothesis fewer waiting items).congr
              intro tail closing
              rw [same tail closing]
              rfl
      | unseen read same =>
          rename_i round
          rw [read]
          cases round with
          | closed content =>
              refine .unseen rfl fun tail closing => ?_
              rw [same tail closing]
              rfl
          | goesOn waiting items =>
              have nothing (rounds : Nat) :
                  readBracketFrom options rounds waiting items [] = none :=
                readBracketFrom_eq_none options List.not_mem_nil rounds waiting items
              refine .refused (nothing rounds) fun tail closing content after went => ?_
              rw [same tail closing] at went
              cases (nothing _).symm.trans went
      | refused read beyond =>
          rw [read]
          refine .refused rfl fun tail closing content after went => ?_
          rcases Option.bind_eq_some_iff.mp went with ⟨⟨round, rest⟩, found, further⟩
          cases round with
          | closed content =>
              exact absurd found (readBracketRound_ne_closed options read closing)
          | goesOn waiting items =>
              have part := beyond tail closing _ _ found
              cases (readBracketFrom_closing options closing part _ waiting items).symm.trans further

theorem readBracket_eq (letters : List Char) :
    readBracket options letters =
      readBracketFrom options letters.length [.bracket [] (opened options letters).1.1]
        (opened options letters).1.2 (opened options letters).2 := rfl

theorem local_readBracket : Local 1 (readBracket options) := by
  have start : Local 1 fun letters => some (opened options letters) := local_opened options
  have left (letters : List Char) : (opened options letters).2 <:+ letters := start.suffix rfl
  constructor
  · intro letters content after read
    exact (readBracketFrom_suffix options read).trans (left letters)
  · intro letters
    have enough := (left letters).length_le
    have whole := readBracketFrom_follows options enough [.bracket [] (opened options letters).1.1]
      (opened options letters).1.2
    cases start.follows letters with
    | kept read same =>
        have found := Option.some.inj read
        rw [found] at whole
        rw [readBracket_eq, found]
        apply whole.congr
        intro tail closing
        rw [readBracket_eq, Option.some.inj (same tail closing), List.length_append]
    | unseen read same =>
        have nothing (rounds : Nat) (waiting : List Waiting) (items : List DeepSet) :
            readBracketFrom options rounds waiting items [] = none :=
          readBracketFrom_eq_none options List.not_mem_nil rounds waiting items
        refine .refused ?_ fun tail closing content after went => ?_
        · rw [readBracket_eq, Option.some.inj read, nothing]
        · rw [readBracket_eq, Option.some.inj (same tail closing), nothing] at went
          cases went
    | refused read => cases read

end Pattern
end ItemModels

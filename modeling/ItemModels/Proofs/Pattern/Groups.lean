import ItemModels.Pattern.Read
import ItemModels.Proofs.Pattern.Brackets

namespace ItemModels
namespace Pattern

/-!
# Groups and repetitions, and what follows them

What opens a group and what bounds a repetition are read without regard to what is
around them, and so without regard to what follows the text.
-/

/-! ## Repetitions -/

section Repetitions

variable (options : Options)

/-- White space is passed over, and no white space follows a text. -/
theorem exact_dropSpace : Exact fun letters =>
    some ((), letters.dropWhile fun letter => Text.CharClass.space.has letter) := by
  constructor
  · rintro letters _ _ ⟨⟩
    exact List.dropWhile_suffix _
  · rintro letters _ ⟨more, rfl, _⟩
    rw [Option.map_some, List.dropWhile_append]
    split
    · rename_i nothing
      rw [List.isEmpty_iff.mp nothing, List.dropWhile_cons, Options.space_closing]
      rfl
    · rfl

/-- The number that digits write, unless there are none or too many. -/
def countOf? (digits : List Char) : Option Nat :=
  if digits.isEmpty || decide (countLimit < Text.digitsValue digits) then none
  else some (Text.digitsValue digits)

/-- The number that digits write, with what is left after blanks. -/
def countThen (digits rest : List Char) : Option (Nat × List Char) :=
  (countOf? digits).bind fun count =>
    some (count, rest.dropWhile fun letter => Text.CharClass.space.has letter)

theorem local_countThen (digits : List Char) : Local 1 (countThen digits) := by
  unfold countThen
  cases countOf? digits with
  | none => exact .nothing
  | some count => exact (exact_dropSpace.map fun _ => count).toLocal

theorem local_readCount : Local 1 (readCount options) := by
  have digits : Local 1 fun letters => (some (options.take Char.isDigit false letters)).bind
      fun result => countThen result.1 result.2 :=
    (options.local_take Char.isDigit 1 (by decide)).bind countThen local_countThen
  apply (exact_dropSpace.toLocal.bind (fun _ letters =>
    (some (options.take Char.isDigit false letters)).bind fun result => countThen result.1 result.2)
    fun _ => digits).congr
  intro letters
  rw [readCount]
  simp only [Option.bind_some, countThen, countOf?]
  split <;> rfl

/-- Bounds that are complete when a brace closes them. -/
def closeBounds (bounds : Option (Nat × Option Nat)) (letters : List Char) :
    Option ((Nat × Option Nat) × List Char) :=
  match letters with
  | '\x7d' :: after => bounds.bind fun complete => some (complete, after)
  | _ => none

theorem local_closeBounds (bounds : Option (Nat × Option Nat)) : Local 1 (closeBounds bounds) := by
  refine .peek '\x7d' (by decide) (.given bounds id) .nothing (fun _ => rfl) ?_
  intro letters unmarked
  unfold closeBounds
  split
  · exact absurd rfl unmarked
  · rfl

/-- Reads the upper bound after the comma. -/
def readUpper (least : Nat) (letters : List Char) : Option ((Nat × Option Nat) × List Char) :=
  match options.advance letters with
  | '\x7d' :: after => some ((least, none), after)
  | upper =>
      (readCount options upper).bind fun result =>
        closeBounds (if least <= result.1 then some (least, some result.1) else none) result.2

theorem local_readUpper (least : Nat) : Local 1 (readUpper options least) := by
  have ahead : Local 1 fun letters => match letters with
      | '\x7d' :: after => some ((least, none), after)
      | upper =>
          (readCount options upper).bind fun result =>
            closeBounds (if least <= result.1 then some (least, some result.1) else none)
              result.2 := by
    refine .peek '\x7d' (by decide) (.done (least, none)) ((local_readCount options).bind
      (fun most last => closeBounds (if least <= most then some (least, some most) else none) last)
      fun most => local_closeBounds _) (fun _ => rfl) fun letters unmarked => ?_
    split
    · exact absurd rfl unmarked
    · rfl
  exact ahead.advanced options

/-- Reads what follows the lower bound. -/
def readBoundsAfter (least : Nat) (letters : List Char) : Option ((Nat × Option Nat) × List Char) :=
  match letters with
  | ',' :: others => readUpper options least others
  | rest => closeBounds (some (least, some least)) rest

theorem local_readBoundsAfter (least : Nat) : Local 1 (readBoundsAfter options least) := by
  refine .peek ',' (by decide) (local_readUpper options least)
    (local_closeBounds (some (least, some least))) (fun _ => rfl) fun letters unmarked => ?_
  unfold readBoundsAfter
  split
  · exact absurd rfl unmarked
  · rfl

/-- Both bounds as one value, apart from the text that is left. -/
def paired (result : Nat × Option Nat × List Char) : (Nat × Option Nat) × List Char :=
  ((result.1, result.2.1), result.2.2)

theorem paired_closed (least most : Nat) (last : List Char) :
    (match last with
      | '\x7d' :: after => if least <= most then some (least, some most, after) else none
      | _ => none).map paired =
      closeBounds (if least <= most then some (least, some most) else none) last := by
  unfold closeBounds
  split
  · split <;> rfl
  · rfl

theorem paired_upper (least : Nat) (others : List Char) :
    (match options.advance others with
      | '\x7d' :: after => some (least, none, after)
      | upper => do
          let (most, last) <- readCount options upper
          match last with
          | '\x7d' :: after => if least <= most then some (least, some most, after) else none
          | _ => none).map paired =
      readUpper options least others := by
  unfold readUpper
  split
  · rfl
  · cases readCount options (options.advance others) with
    | none => rfl
    | some result => exact paired_closed least result.1 result.2

theorem paired_readRepetition (letters : List Char) :
    (readRepetition options letters).map paired =
      (readCount options (options.advance letters)).bind fun result =>
        readBoundsAfter options result.1 result.2 := by
  rw [readRepetition]
  rcases readCount options (options.advance letters) with _ | ⟨least, rest⟩
  · rfl
  · simp only [Option.bind_eq_bind, Option.bind_some]
    split
    · rfl
    · rename_i others
      exact paired_upper options least others
    · rename_i noBrace noComma
      rw [readBoundsAfter, closeBounds]
      · rfl
      · exact noBrace
      · exact noComma

theorem local_readRepetition : Local 1 fun letters => (readRepetition options letters).map paired :=
  (((local_readCount options).advanced options).bind (readBoundsAfter options)
    (local_readBoundsAfter options)).congr (paired_readRepetition options)

end Repetitions

/-- The mark after a repetition, if there is one. -/
theorem local_repeatLast (reader : Reader) (least : Nat) (most : Option Nat) :
    Local 1 (repeatLast reader least most) := by
  have marked (reluctant : Bool) : Local 1 fun rest =>
      (reader.innermost.repeatLast? least most (reluctant != reader.options.reluctant)).bind
        fun group => some ({ reader with innermost := group }, rest) := .given _ _
  have mapped (reluctant : Bool) (rest : List Char) :
      ((reader.innermost.repeatLast? least most (reluctant != reader.options.reluctant)).map
        fun group => ({ reader with innermost := group }, rest)) =
      (reader.innermost.repeatLast? least most (reluctant != reader.options.reluctant)).bind
        fun group => some ({ reader with innermost := group }, rest) := by
    rw [Option.map_eq_bind]
    rfl
  refine .peek '?' (by decide) (marked true) (marked false) (fun rest => mapped true rest) ?_
  intro letters unmarked
  rw [repeatLast, dropMark]
  · exact mapped false letters
  · rintro rest rfl
    exact unmarked rfl

/-! ## Groups -/

/-- Whether a group may have the name. -/
def isGroupName : List Char -> Bool
  | [] => false
  | first :: others => isNameChar true first && others.all (isNameChar false)

/-- A name that is complete when an angle bracket closes it. -/
def closeName (name letters : List Char) : Option (List Char × List Char) :=
  match letters with
  | '>' :: after => if isGroupName name then some (name, after) else none
  | _ => none

theorem exact_closeName (name : List Char) : Exact (closeName name) := by
  have closed : Exact fun after => if isGroupName name then some (name, after) else none := by
    cases isGroupName name with
    | true => exact .done name
    | false => exact .nothing
  refine .peek '>' (by decide) closed .nothing (fun _ => rfl) fun letters unmarked => ?_
  unfold closeName
  split
  · exact absurd rfl unmarked
  · rfl

theorem readName_eq (letters : List Char) :
    readName letters =
      closeName (letters.takeWhile fun letter => letter != '>')
        (letters.dropWhile fun letter => letter != '>') := by
  unfold readName closeName
  rcases letters.takeWhile fun letter => letter != '>' with _ | ⟨first, others⟩
  · split <;> rfl
  · dsimp only
    split
    · rename_i found _ _ same ended
      cases same
      rw [ended]
      rfl
    · split
      · rename_i open_ _ after ended
        exact absurd ended (open_ first others after rfl)
      · rfl

theorem exact_readName : Exact readName := by
  constructor
  · intro letters name after read
    rw [readName_eq] at read
    exact ((exact_closeName _).suffix read).trans (List.dropWhile_suffix _)
  · intro letters tail closing
    rw [readName_eq, readName_eq]
    by_cases present : '>' ∈ letters
    · rw [dropWhile_append_of_mem present, takeWhile_append_of_mem present]
      exact (exact_closeName _).append _ tail closing
    · have absent : '>' ∉ letters ++ tail := by
        rw [List.mem_append, not_or]
        exact ⟨present, closing.not_mem (by decide) (by decide)⟩
      rw [dropWhile_eq_nil_of_not_mem present, dropWhile_eq_nil_of_not_mem absent]
      rfl

theorem local_readNamedGroup (reader : Reader) : Local 1 (readNamedGroup reader) := by
  let opened (name rest : List Char) : Option (Reader × List Char) :=
    if reader.names.contains name then none
    else some ({ reader.openNumbered with names := name :: reader.names }, rest)
  refine exact_readName.toLocal.bind opened fun name => ?_
  cases known : reader.names.contains name with
  | true =>
      refine Local.nothing.congr fun rest => ?_
      simp only [opened, known, if_true]
  | false =>
      let named : Reader := { reader.openNumbered with names := name :: reader.names }
      refine (Local.done named).congr fun rest => ?_
      simp only [opened, named, known, if_neg Bool.false_ne_true]

/-- Reads settings and gives them with the mark after them as one value. -/
def readMarkedSettings (seen : List Char) (cleared danglingMinus : Bool) (letters : List Char) :
    Option ((List (Char × Bool) × Char) × List Char) :=
  (readSettings seen cleared danglingMinus letters).map fun result =>
    ((result.1, result.2.1), result.2.2)

/-- Settings end with a character, or they go on after it. -/
theorem readMarkedSettings_cons_cases (seen : List Char) (cleared danglingMinus : Bool)
    (letter : Char) :
    (∃ result : Option (List (Char × Bool) × Char), ∀ rest,
      readMarkedSettings seen cleared danglingMinus (letter :: rest) =
        result.bind fun value => some (value, rest)) ∨
    ∃ seen' cleared' danglingMinus', ∃ change : List (Char × Bool) × Char -> _, ∀ rest,
      readMarkedSettings seen cleared danglingMinus (letter :: rest) =
        (readMarkedSettings seen' cleared' danglingMinus' rest).map fun result =>
          (change result.1, result.2) := by
  by_cases mark : (letter == ':' || letter == ')') = true
  · refine .inl ⟨if danglingMinus then none else some ([], letter), fun rest => ?_⟩
    rw [readMarkedSettings, readSettings, if_pos mark]
    cases danglingMinus <;> rfl
  · by_cases minus : (letter == '-') = true
    · cases cleared with
      | true =>
          refine .inl ⟨none, fun rest => ?_⟩
          rw [readMarkedSettings, readSettings, if_neg mark, if_pos minus]
          rfl
      | false =>
          refine .inr ⟨seen, true, true, id, fun rest => ?_⟩
          rw [readMarkedSettings, readSettings, if_neg mark, if_pos minus, readMarkedSettings,
            Option.map_map]
          rfl
    · by_cases known : (['i', 'm', 's', 'U', 'u', 'R', 'x'].contains letter &&
          !seen.contains letter) = true
      · refine .inr ⟨letter :: seen, cleared, false,
          fun value => ((letter, !cleared) :: value.1, value.2), fun rest => ?_⟩
        rw [readMarkedSettings, readSettings, if_neg mark, if_neg minus, if_pos known,
          readMarkedSettings, Option.map_map, Option.map_map]
        rfl
      · refine .inl ⟨none, fun rest => ?_⟩
        rw [readMarkedSettings, readSettings, if_neg mark, if_neg minus, if_neg known]
        rfl

theorem local_readMarkedSettings (seen : List Char) (cleared danglingMinus : Bool) :
    Local 1 (readMarkedSettings seen cleared danglingMinus) := by
  have ended {letter : Char} {result : Option (List (Char × Bool) × Char)}
      {seen : List Char} {cleared danglingMinus : Bool}
      (ends : ∀ rest, readMarkedSettings seen cleared danglingMinus (letter :: rest) =
        result.bind fun value => some (value, rest)) :
      Local 1 fun rest => readMarkedSettings seen cleared danglingMinus (letter :: rest) :=
    (Local.given result id).congr ends
  constructor
  · intro letters value after read
    induction letters generalizing seen cleared danglingMinus value with
    | nil => cases read
    | cons letter rest inductionHypothesis =>
        apply List.IsSuffix.trans _ (List.suffix_cons letter rest)
        rcases readMarkedSettings_cons_cases seen cleared danglingMinus letter with
          ⟨result, ends⟩ | ⟨_, _, _, change, goesOn⟩
        · exact (ended ends).suffix read
        · rw [goesOn] at read
          rcases Option.map_eq_some_iff.mp read with ⟨⟨before, left⟩, found, ⟨⟩⟩
          exact inductionHypothesis _ _ _ found
  · intro letters
    induction letters generalizing seen cleared danglingMinus with
    | nil =>
        refine .refused rfl ?_
        rintro _ ⟨more, rfl, _⟩ value after read
        cases danglingMinus with
        | true => cases read
        | false =>
            cases read
            exact List.suffix_refl more
    | cons letter rest inductionHypothesis =>
        rcases readMarkedSettings_cons_cases seen cleared danglingMinus letter with
          ⟨result, ends⟩ | ⟨_, _, _, change, goesOn⟩
        · exact (ended ends).follows rest
        · rw [goesOn]
          apply ((inductionHypothesis _ _ _).map change).congr
          exact fun tail _ => goesOn _

/-- What settings do: they hold from here on, or in a group that they open. -/
def applySettings? (reader : Reader) (settings : List (Char × Bool)) (mark : Char) :
    Option Reader :=
  if mark = ')' then
    if settings.isEmpty then none
    else some
      { reader with
        options := reader.options.update settings
        innermost := reader.innermost.addSetting }
  else some (reader.openGroup settings)

/-- Reads settings and applies them. -/
def readSettingGroup (reader : Reader) (letters : List Char) : Option (Reader × List Char) :=
  (readMarkedSettings [] false false letters).bind fun result =>
    (applySettings? reader result.1.1 result.1.2).bind fun next => some (next, result.2)

theorem local_readSettingGroup (reader : Reader) : Local 1 (readSettingGroup reader) :=
  (local_readMarkedSettings [] false false).bind
    (fun value rest => (applySettings? reader value.1 value.2).bind fun next => some (next, rest))
    fun _ => .given _ id

theorem readSettingGroup_eq (reader : Reader) (letters : List Char) :
    (match readSettings [] false false letters with
      | none => none
      | some (settings, ')', after) =>
          if settings.isEmpty then none
          else some
            ({ reader with
               options := reader.options.update settings
               innermost := reader.innermost.addSetting }, after)
      | some (settings, _, after) => some (reader.openGroup settings, after)) =
      readSettingGroup reader letters := by
  rw [readSettingGroup, readMarkedSettings]
  rcases readSettings [] false false letters with _ | ⟨settings, mark, after⟩
  · rfl
  · simp only [Option.map_some, Option.bind_some, applySettings?]
    split
    · rename_i same
      cases same
    · rename_i same
      cases same
      rw [if_pos rfl]
      split <;> rfl
    · rename_i open_ same
      cases same
      rw [if_neg fun closes => open_ (by rw [closes])]
      rfl

/-- Reads the start of a group after its question mark and an angle bracket. -/
def readAngleGroup (reader : Reader) (letters : List Char) : Option (Reader × List Char) :=
  match letters with
  | '=' :: _ => none
  | '!' :: _ => none
  | rest => readNamedGroup reader rest

/-- Reads the start of a group after its question mark. -/
def readMarkedGroup (reader : Reader) (letters : List Char) : Option (Reader × List Char) :=
  match letters with
  | '=' :: _ => none
  | '!' :: _ => none
  | '<' :: rest => readAngleGroup reader rest
  | 'P' :: '<' :: rest => readNamedGroup reader rest
  | rest => readSettingGroup reader rest

theorem readGroup_eq (reader : Reader) (letters : List Char) :
    readGroup reader letters =
      match reader.options.advance letters with
      | '?' :: rest => readMarkedGroup reader rest
      | rest => some (reader.openNumbered, rest) := by
  unfold readGroup
  split
  case h_6 =>
    rename_i rest noEqual noMark ahead
    rw [ahead]
    exact (readAngleGroup.eq_3 reader rest noEqual noMark).symm
  case h_7 =>
    rename_i rest noEqual noMark _ _ noP noName ahead
    rw [ahead]
    change _ = readMarkedGroup reader rest
    rw [readMarkedGroup]
    · exact readSettingGroup_eq reader rest
    all_goals assumption
  case h_8 =>
    rename_i noMark
    split
    · rename_i rest ahead
      exact absurd ahead (noMark rest)
    · rfl
  all_goals
    rename_i ahead
    rw [ahead]
    rfl

theorem local_readAngleGroup (reader : Reader) : Local 1 (readAngleGroup reader) := by
  refine (local_readNamedGroup reader).dispatch (fun letter => ?_) rfl
  by_cases equal : letter = '='
  · subst equal
    exact .inl ⟨by decide, .nothing⟩
  by_cases mark : letter = '!'
  · subst mark
    exact .inl ⟨by decide, .nothing⟩
  · refine .inr fun rest => ?_
    rw [readAngleGroup]
    · rintro _ ⟨⟩
      exact equal rfl
    · rintro _ ⟨⟩
      exact mark rfl

theorem local_readMarkedGroup (reader : Reader) : Local 1 (readMarkedGroup reader) := by
  refine (local_readSettingGroup reader).dispatch (fun letter => ?_) rfl
  by_cases equal : letter = '='
  · subst equal
    exact .inl ⟨by decide, .nothing⟩
  by_cases mark : letter = '!'
  · subst mark
    exact .inl ⟨by decide, .nothing⟩
  by_cases angle : letter = '<'
  · subst angle
    exact .inl ⟨by decide, local_readAngleGroup reader⟩
  by_cases isP : letter = 'P'
  · subst isP
    refine .inl ⟨by decide, .peek '<' (by decide) (local_readNamedGroup reader) .nothing
      (fun _ => rfl) fun rest unmarked => ?_⟩
    rw [readMarkedGroup]
    · rfl
    all_goals rintro _ ⟨⟩
    exact unmarked rfl
  · refine .inr fun rest => ?_
    rw [readMarkedGroup]
    · rintro _ ⟨⟩
      exact equal rfl
    · rintro _ ⟨⟩
      exact mark rfl
    · rintro _ ⟨⟩
      exact angle rfl
    · rintro _ ⟨⟩
      exact isP rfl

theorem local_readGroup (reader : Reader) : Local 1 (readGroup reader) := by
  have ahead : Local 1 fun letters => match letters with
      | '?' :: rest => readMarkedGroup reader rest
      | rest => some (reader.openNumbered, rest) := by
    refine .peek '?' (by decide) (local_readMarkedGroup reader) (.done reader.openNumbered)
      (fun _ => rfl) fun letters unmarked => ?_
    split
    · exact absurd rfl unmarked
    · rfl
  exact (ahead.advanced reader.options).congr (readGroup_eq reader)

end Pattern
end ItemModels

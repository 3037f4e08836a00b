import ItemModels.Json.Fault
import ItemModels.Json.Render
import ItemModels.Proofs.Json.Spelling

namespace ItemModels
namespace Json

/-!
# Compact texts are read as they were written

A string is written character by character, and what is written for one
character is read as this character, whatever follows.  None of it is half of a
surrogate pair, so the reader never waits for another half.  A string between its
quotes is therefore one token, which carries the string.

From there on the tokens of a text are those of its parts.  `Spells` says that the
compact text of a value has the tokens of an outline.  It holds in front of any
rest, so that it can be put together from the members of an object.
-/

/-! ## Strings -/

theorem unit_of_control : ∀ code < 0x20,
    unit? '0' '0' (hexDigit (code / 16)) (hexDigit (code % 16)) = some code := by
  decide

/-- A unit far below the surrogates is a character. -/
theorem Scanned.addUnit_of_control {scanned : Scanned} (complete : scanned.leading = none)
    {letter : Char} (control : letter.toNat < 0x20) :
    scanned.addUnit letter.toNat = scanned.add letter := by
  have notLeading : isLeading letter.toNat = false := by
    rw [isLeading, decide_eq_false (by omega), Bool.false_and]
  have notTrailing : isTrailing letter.toNat = false := by
    rw [isTrailing, decide_eq_false (by omega), Bool.false_and]
  rw [addUnit, complete]
  simp only [notLeading, notTrailing, Bool.false_eq_true, if_false, Char.ofNat_toNat]

/-- What is written for a character is read as this character. -/
theorem scanString_escapedChar {scanned : Scanned} (complete : scanned.leading = none)
    (letter : Char) (rest : List Char) :
    scanString scanned (escapedChar letter ++ rest) = scanString (scanned.add letter) rest := by
  by_cases named : letter ∈ ['"', '\\', '\x08', '\x0c', '\n', '\r', '\t']
  · simp only [List.mem_cons, List.not_mem_nil, or_false] at named
    rcases named with rfl | rfl | rfl | rfl | rfl | rfl | rfl <;> rfl
  simp only [List.mem_cons, List.not_mem_nil, or_false, not_or] at named
  rcases named with ⟨quote, backslash, backspace, formFeed, lineFeed, carriageReturn, tab⟩
  by_cases control : letter.toNat < 0x20
  · have escaped : escapedChar letter =
        ['\\', 'u', '0', '0', hexDigit (letter.toNat / 16), hexDigit (letter.toNat % 16)] := by
      simp [escapedChar, quote, backslash, backspace, formFeed, lineFeed, carriageReturn, tab,
        control]
    rw [escaped]
    simp only [List.cons_append, List.nil_append]
    rw [scanString, unit_of_control letter.toNat control]
    exact congrArg (fun next => scanString next rest)
      (Scanned.addUnit_of_control complete control)
  · have escaped : escapedChar letter = [letter] := by
      simp [escapedChar, quote, backslash, backspace, formFeed, lineFeed, carriageReturn, tab,
        control]
    rw [escaped, List.singleton_append, scanString]
    · simp [backslash, control]
    · exact quote
    · intro _ _ _ _ _ impossible
      exact absurd impossible backslash
    · intro _ _ impossible
      exact absurd impossible backslash

theorem scanString_flatMap (letters rest done : List Char) :
    scanString ⟨done, none, true⟩ (letters.flatMap escapedChar ++ '"' :: rest) =
      some (some (String.ofList (done.reverse ++ letters)), rest) := by
  induction letters generalizing done with
  | nil => simp [scanString, Scanned.text?]
  | cons letter others inductionHypothesis =>
      rw [List.flatMap_cons, List.append_assoc, scanString_escapedChar rfl]
      have next : Scanned.add ⟨done, none, true⟩ letter = ⟨letter :: done, none, true⟩ := rfl
      rw [next, inductionHypothesis, List.reverse_cons, List.append_assoc, List.singleton_append]

/-! ## Tokens one by one -/

/-- A token where no space stands comes first. -/
theorem tokensOf_cons {first : Char} {rest after : List Char} {token : Token}
    (visible : isSpace first = false) (cut : token? first rest = some (token, after)) :
    tokensOf (first :: rest) = token :: tokensOf after := by
  have spaced : (first :: rest).dropWhile isSpace = first :: rest := by
    rw [List.dropWhile_cons_of_neg]
    simp [visible]
  rw [tokensOf]
  split
  · rename_i none
    rw [spaced] at none
    cases none
  · rename_i other others same
    rw [spaced] at same
    cases same
    split
    · rename_i uncut
      rw [cut] at uncut
      cases uncut
    · rename_i found again
      rw [cut] at again
      cases again
      rfl

theorem tokensOf_mark {first : Char} {token : Token} (marks : mark? first = some token)
    (rest : List Char) : tokensOf (first :: rest) = token :: tokensOf rest := by
  have visible : isSpace first = false := by
    unfold mark? at marks
    split at marks <;> first | rfl | cases marks
  apply tokensOf_cons visible
  rw [token?, marks]

theorem tokensOf_stringText (text : String) (rest : List Char) :
    tokensOf ((stringText text).toList ++ rest) = .string (some text) :: tokensOf rest := by
  have scanned := scanString_flatMap text.toList rest []
  rw [List.reverse_nil, List.nil_append, String.ofList_toList] at scanned
  rw [stringText, String.toList_ofList, List.cons_append, List.append_assoc, List.singleton_append]
  apply tokensOf_cons rfl
  have start : Scanned.start = ⟨[], none, true⟩ := rfl
  rw [← start] at scanned
  simp [token?, mark?, word?, scanned]

/-- The string of the quote, the backslash and a control character, with an escape for each. -/
example : tokensOf ['"', '\\', '"', '\\', '\\', '\\', 'u', '0', '0', '1', 'f', '"'] =
    [.string (some "\"\\\x1f")] := by
  decide +kernel

/-! ## Values -/

/-- The compact text of the value has the tokens of the outline, whatever follows it. -/
def Spells (value : Json) (outline : Outline) : Prop :=
  ∀ rest, tokensOf (value.render.toList ++ rest) = outline.tokens ++ tokensOf rest

namespace Spells

theorem null : Spells .null .null := by
  intro rest
  rw [render]
  exact tokensOf_cons rfl rfl

theorem string (text : String) : Spells (.string text) (.string (some text)) := by
  intro rest
  rw [render]
  exact tokensOf_stringText text rest

/-- The member has the name and a value that spells the outline. -/
def Member (member : String × Json) (part : Option String × Outline) : Prop :=
  part.1 = some member.1 ∧ Spells member.2 part.2

theorem Member.tokens {member : String × Json} {part : Option String × Outline}
    (spells : Member member part) (rest : List Char) :
    tokensOf ((stringText member.1 ++ ":" ++ render member.2).toList ++ rest) =
      Outline.spelled part ++ tokensOf rest := by
  rcases part with ⟨name, outline⟩
  rcases spells with ⟨rfl, value⟩
  have colon : (":" : String).toList = [':'] := rfl
  simp only [String.toList_append, List.append_assoc, colon, List.cons_append, List.nil_append]
  rw [tokensOf_stringText, tokensOf_mark rfl, value rest]
  rfl

theorem tokensOf_renderMembers {members : List (String × Json)}
    {parts : List (Option String × Outline)} (each : List.Forall₂ Member members parts)
    (rest : List Char) :
    tokensOf ((renderMembers members).toList ++ rest) =
      [Token.comma].intercalate (parts.map Outline.spelled) ++ tokensOf rest := by
  induction each with
  | nil => rfl
  | cons first others inductionHypothesis =>
      cases others with
      | nil =>
          rw [renderMembers, List.map_singleton, List.intercalate_singleton]
          exact first.tokens rest
      | cons second others =>
          have comma : ("," : String).toList = [','] := rfl
          rw [List.map_cons, List.map_cons, List.intercalate_cons_cons, renderMembers]
          · rw [String.append_assoc, String.toList_append, List.append_assoc, first.tokens,
              String.toList_append, comma]
            simp only [List.append_assoc, List.cons_append, List.nil_append]
            rw [tokensOf_mark rfl, inductionHypothesis]
            rfl
          · exact List.cons_ne_nil _ _

theorem object {members : List (String × Json)} {parts : List (Option String × Outline)}
    (each : List.Forall₂ Member members parts) : Spells (.object members) (.object parts true) := by
  intro rest
  have opening : ("\x7b" : String).toList = ['\x7b'] := rfl
  have closing : ("\x7d" : String).toList = ['\x7d'] := rfl
  rw [render, Outline.tokens, Outline.memberTokens_eq]
  simp only [String.toList_append, List.append_assoc, opening, closing, List.cons_append,
    List.nil_append]
  rw [tokensOf_mark rfl, tokensOf_renderMembers each, tokensOf_mark rfl]

end Spells

/-- A compact text writes the outline that it spells. -/
theorem Spells.writtenBy {value : Json} {outline : Outline} (spells : Spells value outline)
    (wellFormed : outline.wellFormed = true) : outline.WrittenBy value.render := by
  refine ⟨wellFormed, ?_⟩
  have tokens := spells []
  have finished : tokensOf [] = [] := by
    rw [tokensOf]
    rfl
  rw [List.append_nil, finished, List.append_nil] at tokens
  exact tokens

/-- Reading a document from a compact text is decoding the outline that the text spells. -/
theorem Spells.document_render {value : Json} {outline : Outline} (spells : Spells value outline)
    (wellFormed : outline.wellFormed = true) {Decoded : Type}
    (decode : Outline -> Except Fault Decoded) : document decode value.render = decode outline := by
  have outlined := ((Outline.writtenBy_iff _ _).mp (spells.writtenBy wellFormed)).2
  rw [document, outlined]
  cases decoded : decode outline with
  | error => simp only [decoded]
  | ok => simp only [decoded, Bool.false_eq_true, if_false]

end Json
end ItemModels

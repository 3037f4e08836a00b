import ItemModels.Location
import Mathlib.Data.List.Forall2

namespace ItemModels

/-!
# Texts in another letter case

Two texts differ in letter case alone when they go together character by
character, and where two characters are not the same they are the capital and
the small form of one ASCII letter.  This says nothing of how texts are
compared.  It is the same as to agree after lowering, since lowering changes
capitals alone and no two of them to the same letter.

A location is read from its text by a split and two lowerings.  Lowering makes
and removes no colon, so the split falls in the same place of the lowered text,
and the location is that of the lowered text.
-/

namespace Text

/-- The same character, or the capital and the small form of an ASCII letter. -/
inductive SameLetter : Char -> Char -> Prop where
  | same (letter : Char) : SameLetter letter letter
  | smaller {capital : Char} (upper : capital.isUpper = true) : SameLetter capital capital.toLower
  | larger {capital : Char} (upper : capital.isUpper = true) : SameLetter capital.toLower capital

/-- The texts differ in nothing but the case of ASCII letters. -/
def Respelled (one other : String) : Prop :=
  List.Forall₂ SameLetter one.toList other.toList

/-! ## Lowering a character -/

theorem toLower_of_not_upper {letter : Char} (small : letter.isUpper = false) :
    letter.toLower = letter := by
  have outside : ¬ (letter.val ≥ 'A'.val ∧ letter.val ≤ 'Z'.val) := of_decide_eq_false small
  exact dif_neg outside

/-- A capital is thirty-two places before its small letter. -/
theorem toNat_toLower {capital : Char} (upper : capital.isUpper = true) :
    65 <= capital.toNat ∧ capital.toNat <= 90 ∧ capital.toLower.toNat = capital.toNat + 32 := by
  have inside : capital.val ≥ 'A'.val ∧ capital.val ≤ 'Z'.val := of_decide_eq_true upper
  have least : 65 <= capital.toNat := UInt32.le_iff_toNat_le.mp inside.1
  have most : capital.toNat <= 90 := UInt32.le_iff_toNat_le.mp inside.2
  refine ⟨least, most, ?_⟩
  have moved : capital.toLower.toNat = (capital.val + ('a'.val - 'A'.val)).toNat :=
    congrArg Char.toNat (dif_pos inside)
  have here : capital.val.toNat = capital.toNat := rfl
  have distance : ('a'.val - 'A'.val).toNat = 32 := rfl
  rw [moved, UInt32.toNat_add, distance, here]
  omega

theorem isUpper_toLower (letter : Char) : letter.toLower.isUpper = false := by
  cases upper : letter.isUpper with
  | false => rw [toLower_of_not_upper upper, upper]
  | true =>
      rw [Bool.eq_false_iff]
      intro still
      have first := toNat_toLower upper
      have second := toNat_toLower still
      omega

theorem toLower_toLower (letter : Char) : letter.toLower.toLower = letter.toLower :=
  toLower_of_not_upper (isUpper_toLower letter)

/-- Nothing but a colon becomes a colon. -/
theorem toLower_eq_colon_iff (letter : Char) : letter.toLower = ':' <-> letter = ':' := by
  cases upper : letter.isUpper with
  | false => rw [toLower_of_not_upper upper]
  | true =>
      have range := toNat_toLower upper
      have colon : ':'.toNat = 58 := rfl
      constructor
      · intro same
        rw [same] at range
        omega
      · rintro rfl
        cases upper

theorem sameLetter_iff (one other : Char) :
    SameLetter one other <-> one.toLower = other.toLower := by
  constructor
  · intro alike
    cases alike with
    | same => rfl
    | smaller => exact (toLower_toLower one).symm
    | larger => exact toLower_toLower other
  · intro agree
    cases first : one.isUpper with
    | true =>
        cases second : other.isUpper with
        | true =>
            have here := toNat_toLower first
            have there := toNat_toLower second
            rw [agree] at here
            obtain rfl : one = other := Char.toNat_inj.mp (by omega)
            exact .same one
        | false =>
            rw [← toLower_of_not_upper second, ← agree]
            exact .smaller first
    | false =>
        rw [← toLower_of_not_upper first, agree]
        cases second : other.isUpper with
        | true => exact .larger second
        | false =>
            rw [toLower_of_not_upper second]
            exact .same other

/-! ## Lowering a text -/

theorem respelled_iff (one other : String) :
    Respelled one other <-> lowered one = lowered other := by
  have alike : SameLetter = fun first second => first.toLower = second.toLower := by
    funext first second
    exact propext (sameLetter_iff first second)
  rw [Respelled, alike, lowered, lowered, String.ofList_inj, ← List.forall₂_eq_eq_eq,
    List.forall₂_map_left_iff, List.forall₂_map_right_iff]

instance (one other : String) : Decidable (Respelled one other) :=
  decidable_of_iff _ (respelled_iff one other).symm

theorem lowered_ofList_map (letters : List Char) :
    lowered (String.ofList (letters.map Char.toLower)) = lowered (String.ofList letters) := by
  rw [lowered, lowered, String.toList_ofList, String.toList_ofList, List.map_map]
  apply congrArg String.ofList
  exact List.map_congr_left fun letter _ => toLower_toLower letter

theorem toList_lowered (text : String) : (lowered text).toList = text.toList.map Char.toLower := by
  rw [lowered, String.toList_ofList]

theorem lowered_lowered (text : String) : lowered (lowered text) = lowered text := by
  have again := lowered_ofList_map text.toList
  rw [String.ofList_toList] at again
  exact again

theorem small_of_mem_lowered {text : String} {letter : Char}
    (listed : letter ∈ (lowered text).toList) : letter.isUpper = false := by
  rw [toList_lowered, List.mem_map] at listed
  rcases listed with ⟨original, -, rfl⟩
  exact isUpper_toLower original

theorem lowered_of_small {text : String} (small : ∀ letter ∈ text.toList, letter.isUpper = false) :
    lowered text = text := by
  have same : text.toList.map Char.toLower = text.toList.map id :=
    List.map_congr_left fun letter listed => toLower_of_not_upper (small letter listed)
  rw [lowered, same, List.map_id, String.ofList_toList]

theorem lowered_ne_empty {letters : List Char} (nonempty : letters ≠ []) :
    lowered (String.ofList letters) ≠ "" := by
  intro empty
  have none := congrArg String.toList empty
  rw [toList_lowered, String.toList_ofList] at none
  exact nonempty (List.map_eq_nil_iff.mp none)

/-- Comparison without regard to case does not see the case of the second text. -/
theorem sameLetters_respelled {one other : String} (respelled : Respelled one other)
    (text : String) : sameLetters text one = sameLetters text other := by
  rw [sameLetters, sameLetters, (respelled_iff one other).mp respelled]

end Text

namespace Location

/-- A lowered text is split in the same place. -/
theorem splitColon_map (letters : List Char) :
    splitColon? (letters.map Char.toLower) =
      (splitColon? letters).map
        (Prod.map (List.map Char.toLower) (List.map Char.toLower)) := by
  induction letters with
  | nil => rfl
  | cons letter rest inductionHypothesis =>
      rw [List.map_cons, splitColon?, splitColon?, inductionHypothesis]
      by_cases colon : letter = ':'
      · rw [if_pos ((Text.toLower_eq_colon_iff letter).mpr colon), if_pos colon]
        rfl
      · rw [if_neg (mt (Text.toLower_eq_colon_iff letter).mp colon), if_neg colon, Option.map_map,
          Option.map_map]
        rfl

/-- A text names the location that it names in small letters. -/
theorem ofText_lowered (text : String) : ofText (Text.lowered text) = ofText text := by
  rw [ofText, ofText, Text.toList_lowered, splitColon_map]
  cases split : splitColon? text.toList with
  | none => rw [Option.map_none, Text.lowered_lowered]
  | some parts =>
      rcases parts with ⟨space, path⟩
      rw [Option.map_some, Prod.map_apply]
      cases space with
      | nil => simp only [List.map_nil, Text.lowered_ofList_map]
      | cons letter rest =>
          have space := Text.lowered_ofList_map (letter :: rest)
          rw [List.map_cons] at space
          simp only [List.map_cons, space, Text.lowered_ofList_map]

/-- The case of letters does not change the location. -/
theorem ofText_respelled {one other : String} (respelled : Text.Respelled one other) :
    ofText one = ofText other := by
  rw [← ofText_lowered one, (Text.respelled_iff one other).mp respelled, ofText_lowered]

/-- Letters outside ASCII keep their case. -/
example : ofText "Mod:Ärger" = ⟨"mod", "Ärger"⟩ ∧ ¬ Text.Respelled "Ärger" "ärger" := by decide

end Location
end ItemModels

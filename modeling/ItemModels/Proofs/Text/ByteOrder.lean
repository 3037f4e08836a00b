import Mathlib.Data.List.Basic

namespace ItemModels
namespace Text

/-!
# Texts in the order of their bytes

Texts are compared character by character, and UTF-8 is made so that comparing the
bytes comes to the same.  The first byte shows how many bytes a character has, and
characters with more bytes come later.  Of characters with equally many bytes each
byte is a digit, the first ones counting most; so a further byte at the end refines
the order of what stands before it, which is what `InOrder.continued` says.
-/

/-- The bytes of a text in UTF-8. -/
def bytes (text : String) : List UInt8 := text.toUTF8.data.toList

theorem bytes_eq_flatMap (text : String) :
    bytes text = text.toList.flatMap String.utf8EncodeChar := by
  rw [bytes, String.toUTF8_eq_toByteArray, ← String.utf8Encode_toList]
  exact List.toList_data_toByteArray

/-- Numbers below the bound are written in ascending order, whatever follows them. -/
def InOrder (bound : Nat) (write : Nat -> List UInt8) : Prop :=
  ∀ less more : Nat, less < more -> more < bound -> ∀ rest others,
    write less ++ rest < write more ++ others

theorem ofNat_cons_lt {less more : Nat} (ordered : less < more) (bounded : more < 256)
    (rest others : List UInt8) : UInt8.ofNat less :: rest < UInt8.ofNat more :: others := by
  apply List.cons_lt_cons_iff.mpr
  exact .inl ((UInt8.ofNat_lt_iff_lt (Nat.lt_trans ordered bounded) bounded).mpr ordered)

/-- A first byte has room for one digit over its mark. -/
theorem inOrder_first (bound mark : Nat) (room : bound + mark <= 256) :
    InOrder bound fun number => [UInt8.ofNat (number % bound + mark)] := by
  intro less more ordered bounded rest others
  simp only [Nat.mod_eq_of_lt bounded, Nat.mod_eq_of_lt (Nat.lt_trans ordered bounded)]
  exact ofNat_cons_lt (by omega) (by omega) rest others

/-- A further byte holds the last digit. -/
theorem InOrder.continued {bound : Nat} {write : Nat -> List UInt8}
    (inOrder : InOrder bound write) : InOrder (bound * 64) fun number =>
      write (number / 64) ++ [UInt8.ofNat (number % 64 + 128)] := by
  intro less more ordered bounded rest others
  simp only [List.append_assoc]
  have leading : less / 64 <= more / 64 := Nat.div_le_div_right (Nat.le_of_lt ordered)
  rcases Nat.lt_or_eq_of_le leading with before | same
  · exact inOrder _ _ before (by omega) _ _
  · rw [same]
    apply List.append_left_lt
    exact ofNat_cons_lt (by omega) (by omega) rest others

theorem inOrder_two : InOrder 2048 fun number =>
    [UInt8.ofNat (number / 64 % 32 + 192), UInt8.ofNat (number % 64 + 128)] :=
  (inOrder_first 32 192 (by decide)).continued

theorem inOrder_three : InOrder 65536 fun number =>
    [UInt8.ofNat (number / 4096 % 16 + 224), UInt8.ofNat (number / 64 % 64 + 128),
      UInt8.ofNat (number % 64 + 128)] := by
  have digits := (inOrder_first 16 224 (by decide)).continued.continued
  simp only [Nat.div_div_eq_div_mul] at digits
  exact digits

theorem inOrder_four : InOrder 2097152 fun number =>
    [UInt8.ofNat (number / 262144 % 8 + 240), UInt8.ofNat (number / 4096 % 64 + 128),
      UInt8.ofNat (number / 64 % 64 + 128), UInt8.ofNat (number % 64 + 128)] := by
  have digits := (inOrder_first 8 240 (by decide)).continued.continued.continued
  simp only [Nat.div_div_eq_div_mul] at digits
  exact digits

/-- The bytes of a character come before those of a later one, whatever follows. -/
theorem utf8EncodeChar_lt {one other : Char} (less : one < other) (rest others : List UInt8) :
    String.utf8EncodeChar one ++ rest < String.utf8EncodeChar other ++ others := by
  have ordered : one.val.toNat < other.val.toNat := UInt32.lt_iff_toNat_lt.mp less
  have bounded : other.val.toNat < 2097152 := by
    have valid := other.valid
    rcases valid with low | ⟨_, high⟩ <;> omega
  unfold String.utf8EncodeChar
  dsimp only
  split_ifs
  -- The first bytes differ unless both characters have equally many.
  all_goals first
    | omega
    | exact ofNat_cons_lt (by omega) (by omega) _ _
    | exact inOrder_two _ _ ordered (by omega) _ _
    | exact inOrder_three _ _ ordered (by omega) _ _
    | exact inOrder_four _ _ ordered bounded _ _

/-- Texts are in the order of their bytes. -/
theorem bytes_lt_of_lt {one other : String} (less : one < other) : bytes one < bytes other := by
  rw [bytes_eq_flatMap, bytes_eq_flatMap]
  replace less := String.lt_iff.mp less
  generalize one.toList = first, other.toList = second at less ⊢
  induction first generalizing second with
  | nil =>
      cases second with
      | nil => exact absurd less (List.not_lt_nil _)
      | cons character rest =>
          rcases List.exists_cons_of_ne_nil (String.utf8EncodeChar_ne_nil (c := character)) with
            ⟨byte, bytes, spelled⟩
          rw [List.flatMap_cons, spelled]
          exact List.nil_lt_cons byte _
  | cons character rest inductionHypothesis =>
      cases second with
      | nil => exact absurd less (List.not_lt_nil _)
      | cons later others =>
          rw [List.flatMap_cons, List.flatMap_cons]
          rcases List.cons_lt_cons_iff.mp less with before | ⟨rfl, after⟩
          · exact utf8EncodeChar_lt before _ _
          · exact List.append_left_lt (inductionHypothesis others after)

end Text
end ItemModels

import ItemModels.Json.Basic

namespace ItemModels

/-!
# Shapes of JSON values

Tests are stated by values of a few shapes: a number, a string, a string or an
array of nothing but strings, and an object of numbers.  The readers of these
shapes give nothing for a value of another shape.  Each is described here by the
shape that it reads.
-/

namespace Json

/-- The value is a string, or an array of nothing but strings, and these are its texts. -/
inductive Lists : Json -> List String -> Prop where
  | one (text : String) : Lists (.string text) [text]
  | many (texts : List String) : Lists (.array (texts.map .string)) texts

theorem toText_eq_some_iff (value : Json) (text : String) :
    value.toText? = some text <-> value = .string text := by
  cases value <;> simp [toText?]

theorem toInt64_eq_some_iff (value : Json) (word : Int64) :
    value.toInt64? = some word <-> ∃ number, value = .number number ∧ number.toInt64 = word := by
  cases value <;> simp [toInt64?]

private theorem mapM_toText_eq_some_iff (items : List Json) (texts : List String) :
    items.mapM toText? = some texts <-> items = texts.map .string := by
  induction items generalizing texts with
  | nil => cases texts <;> simp
  | cons item rest inductionHypothesis =>
      cases texts with
      | nil => simp [List.mapM_cons, Option.bind_eq_some_iff]
      | cons text others =>
          simp [List.mapM_cons, Option.bind_eq_some_iff, toText_eq_some_iff, inductionHypothesis]

theorem toTexts_eq_some_iff (value : Json) (texts : List String) :
    value.toTexts? = some texts <-> value.Lists texts := by
  constructor
  · intro read
    cases value with
    | string text =>
        cases read
        exact .one text
    | array items =>
        rw [(mapM_toText_eq_some_iff items texts).mp read]
        exact .many texts
    | _ => cases read
  · intro listed
    cases listed with
    | one text => rfl
    | many => exact (mapM_toText_eq_some_iff _ texts).mpr rfl

end Json

/-- Reading all members of a list, with something asked of each result, is reading each member
and asking it of that result. -/
theorem exists_mapM_iff {Source Target : Type} (read : Source -> Option Target)
    (Good : Target -> Prop) (sources : List Source) :
    (∃ targets, sources.mapM read = some targets ∧ ∀ target ∈ targets, Good target) <->
      ∀ source ∈ sources, ∃ target, read source = some target ∧ Good target := by
  induction sources with
  | nil => simp
  | cons source rest inductionHypothesis =>
      rw [List.forall_mem_cons, ← inductionHypothesis]
      constructor
      · rintro ⟨targets, found, good⟩
        simp only [List.mapM_cons, Option.bind_eq_bind, Option.bind_eq_some_iff] at found
        rcases found with ⟨target, head, others, tail, same⟩
        cases same
        have parts := List.forall_mem_cons.mp good
        exact ⟨⟨target, head, parts.1⟩, others, tail, parts.2⟩
      · rintro ⟨⟨target, head, here⟩, others, tail, later⟩
        refine ⟨target :: others, ?_, List.forall_mem_cons.mpr ⟨here, later⟩⟩
        simp [List.mapM_cons, head, tail]

end ItemModels

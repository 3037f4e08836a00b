import ItemModels.Json.Outline
import Mathlib.Data.List.Basic

namespace ItemModels
namespace Json
namespace Outline

/-!
# The tokens of a value

A value is written in one way up to space: its items or members stand between
brackets, with a comma between two of them.  A text that is read without a fault
is the text of its outline, and the other way round.

The reader keeps the open containers on a stack.  One direction goes into the
value: the tokens of a part lead to the step that puts the part into its
container.  The other direction goes along the text: what is on the stack shows
which tokens were read.  There it is simplest to count the comma after each part
as read, for in front of the next part it always was.
-/

mutual

/-- The tokens that write a value. -/
def tokens : Outline -> List Token
  | .broken => [.broken]
  | .null => [.null]
  | .bool value => [.bool value]
  | .number value => [.number value]
  | .string text => [.string text]
  | .array items _ =>
      .openArray :: ([Token.comma].intercalate (itemTokens items) ++ [.closeArray])
  | .object members _ =>
      .openObject :: ([Token.comma].intercalate (memberTokens members) ++ [.closeObject])

/-- The tokens of each item. -/
def itemTokens : List Outline -> List (List Token)
  | [] => []
  | item :: rest => tokens item :: itemTokens rest

/-- The tokens of each member: its name, a colon, and its value. -/
def memberTokens : List (Option String × Outline) -> List (List Token)
  | [] => []
  | (name, value) :: rest => (.string name :: .colon :: tokens value) :: memberTokens rest

end

example : tokens (.array [.null, .object [(some "a", .bool true)] true] true) =
    [.openArray, .null, .comma, .openObject, .string (some "a"), .colon, .bool true, .closeObject,
      .closeArray] := rfl

/-- The text writes the value. -/
structure WrittenBy (outline : Outline) (text : String) : Prop where
  wellFormed : outline.wellFormed = true
  tokens : tokensOf text.toList = outline.tokens

/-! ## Going into outlines -/

theorem sizeOf_item_lt {item : Outline} {items : List Outline} (listed : item ∈ items)
    (closed : Bool) : sizeOf item < sizeOf (Outline.array items closed) := by
  have smaller := List.sizeOf_lt_of_mem listed
  simp only [Outline.array.sizeOf_spec]
  omega

theorem sizeOf_value_lt {member : Option String × Outline}
    {members : List (Option String × Outline)} (listed : member ∈ members) (closed : Bool) :
    sizeOf member.2 < sizeOf (Outline.object members closed) := by
  have smaller := List.sizeOf_lt_of_mem listed
  have inside : sizeOf member.2 < sizeOf member := by
    rw [Prod.mk.sizeOf_spec member.1 member.2]
    omega
  simp only [Outline.object.sizeOf_spec]
  omega

/-- Induction on an outline, with a hypothesis for every item of an array and for the value of
every member of an object. -/
@[elab_as_elim]
theorem nested_induction {motive : Outline -> Prop}
    (broken : motive .broken) (null : motive .null) (bool : ∀ value, motive (.bool value))
    (number : ∀ value, motive (.number value)) (string : ∀ text, motive (.string text))
    (array : ∀ items closed, (∀ item ∈ items, motive item) -> motive (.array items closed))
    (object : ∀ members closed, (∀ member ∈ members, motive member.2) ->
      motive (.object members closed)) :
    ∀ outline, motive outline
  | .broken => broken
  | .null => null
  | .bool value => bool value
  | .number value => number value
  | .string text => string text
  | .array items closed => array items closed fun item _ =>
      nested_induction broken null bool number string array object item
  | .object members closed => object members closed fun member _ =>
      nested_induction broken null bool number string array object member.2
termination_by outline => sizeOf outline
decreasing_by
  · exact sizeOf_item_lt ‹item ∈ items› closed
  · exact sizeOf_value_lt ‹member ∈ members› closed

theorem wellFormed_array_iff (items : List Outline) (closed : Bool) :
    (array items closed).wellFormed = true <->
      (∀ item ∈ items, item.wellFormed = true) ∧ closed = true := by
  rw [wellFormed, Bool.and_eq_true]
  refine and_congr_left fun _ => ?_
  induction items with
  | nil => simp [wellFormedItems]
  | cons item rest inductionHypothesis =>
      rw [wellFormedItems, Bool.and_eq_true, inductionHypothesis, List.forall_mem_cons]

theorem wellFormed_object_iff (members : List (Option String × Outline)) (closed : Bool) :
    (object members closed).wellFormed = true <->
      (∀ member ∈ members, member.2.wellFormed = true) ∧ closed = true := by
  rw [wellFormed, Bool.and_eq_true]
  refine and_congr_left fun _ => ?_
  induction members with
  | nil => simp [wellFormedMembers]
  | cons member rest inductionHypothesis =>
      rcases member with ⟨name, value⟩
      rw [wellFormedMembers, Bool.and_eq_true, inductionHypothesis, List.forall_mem_cons]

/-! ## Commas -/

/-- The tokens of a member. -/
def spelled (member : Option String × Outline) : List Token :=
  .string member.1 :: .colon :: member.2.tokens

theorem itemTokens_eq (items : List Outline) : itemTokens items = items.map tokens := by
  induction items with
  | nil => rfl
  | cons item rest inductionHypothesis => rw [itemTokens, inductionHypothesis, List.map_cons]

theorem memberTokens_eq (members : List (Option String × Outline)) :
    memberTokens members = members.map spelled := by
  induction members with
  | nil => rfl
  | cons member rest inductionHypothesis =>
      rcases member with ⟨name, value⟩
      rw [memberTokens, inductionHypothesis, List.map_cons]
      rfl

/-- Between parts stands what stands before each part but the first. -/
theorem intercalate_cons {Letter : Type} (comma : Letter) (part : List Letter)
    (parts : List (List Letter)) :
    [comma].intercalate (part :: parts) = part ++ parts.flatMap (comma :: ·) := by
  induction parts generalizing part with
  | nil => simp
  | cons next rest inductionHypothesis =>
      rw [List.intercalate_cons_cons, inductionHypothesis, List.flatMap_cons]
      simp

/-- Between parts stands what stands after each part but the last. -/
theorem intercalate_append {Letter : Type} (comma : Letter) {parts : List (List Letter)}
    (nonempty : parts ≠ []) :
    [comma].intercalate parts ++ [comma] = parts.flatMap (· ++ [comma]) := by
  induction parts with
  | nil => exact absurd rfl nonempty
  | cons part rest inductionHypothesis =>
      cases rest with
      | nil => simp
      | cons next others =>
          rw [List.intercalate_cons_cons, List.append_assoc,
            inductionHypothesis (List.cons_ne_nil _ _)]
          rfl

/-! ## The tokens of a value are read -/

/-- A value may be put into the innermost container. -/
def Ready (stack : List OpenPart) : Prop :=
  ∀ done outer, stack ≠ .object done :: outer

/-- Reading after a step, unless the step was stuck. -/
def resume (rest : List Token) : Step -> Option (Outline × List Token)
  | .going stack awaited => some (build stack awaited rest)
  | .finished outline => some (outline, rest)
  | .stuck => none

theorem build_cons {stack : List OpenPart} {awaited : Awaited} {token : Token}
    {rest : List Token} (moves : step stack awaited token ≠ .stuck) :
    some (build stack awaited (token :: rest)) = resume rest (step stack awaited token) := by
  rw [build]
  cases stepped : step stack awaited token with
  | going => rfl
  | finished => rfl
  | stuck => exact absurd stepped moves

theorem place_ne_stuck {stack : List OpenPart} (ready : Ready stack) (value : Outline) :
    place value stack ≠ .stuck := by
  cases stack with
  | nil => rintro ⟨⟩
  | cons part outer =>
      cases part with
      | array => rintro ⟨⟩
      | member => rintro ⟨⟩
      | object done => exact absurd rfl (ready done outer)

/-- The tokens of the value lead to the step that puts it into its container. -/
def Leads (value : Outline) : Prop :=
  ∀ stack rest, Ready stack ->
    some (build stack .value (value.tokens ++ rest)) = resume rest (place value stack)

theorem build_firstValue (stack : List OpenPart) (value : Outline) (rest : List Token) :
    build stack .firstValue (value.tokens ++ rest) = build stack .value (value.tokens ++ rest) := by
  cases value <;> rfl

theorem build_items {items : List Outline} (each : ∀ item ∈ items, Leads item)
    {outer : List OpenPart} (ready : Ready outer) (done : List Outline) (rest : List Token) :
    some (build (.array done :: outer) .separator
        ((items.map tokens).flatMap (Token.comma :: ·) ++ .closeArray :: rest)) =
      resume rest (place (.array (done.reverse ++ items) true) outer) := by
  induction items generalizing done with
  | nil =>
      rw [List.append_nil]
      exact build_cons (place_ne_stuck ready _)
  | cons item others inductionHypothesis =>
      have inside : Ready (.array done :: outer) := by
        rintro _ _ ⟨⟩
      have later := inductionHypothesis (fun next listed => each next (.tail _ listed))
        (item :: done)
      rw [List.reverse_cons, List.append_assoc] at later
      rw [List.map_cons, List.flatMap_cons, List.append_assoc, List.cons_append,
        build_cons (by rintro ⟨⟩)]
      exact (each item List.mem_cons_self _ _ inside).trans later

theorem build_members {members : List (Option String × Outline)}
    (each : ∀ member ∈ members, Leads member.2) {outer : List OpenPart} (ready : Ready outer)
    (done : List (Option String × Outline)) (rest : List Token) :
    some (build (.object done :: outer) .separator
        ((members.map spelled).flatMap (Token.comma :: ·) ++ .closeObject :: rest)) =
      resume rest (place (.object (done.reverse ++ members) true) outer) := by
  induction members generalizing done with
  | nil =>
      rw [List.append_nil]
      exact build_cons (place_ne_stuck ready _)
  | cons member others inductionHypothesis =>
      have inside : Ready (.member done member.1 :: outer) := by
        rintro _ _ ⟨⟩
      have later := inductionHypothesis (fun next listed => each next (.tail _ listed))
        (member :: done)
      rw [List.reverse_cons, List.append_assoc] at later
      rw [List.map_cons, List.flatMap_cons, List.append_assoc, List.cons_append,
        build_cons (by rintro ⟨⟩)]
      exact (each member List.mem_cons_self _ _ inside).trans later

theorem leads_of_wellFormed {value : Outline} (wellFormed : value.wellFormed = true) :
    Leads value := by
  induction value using nested_induction with
  | broken => cases wellFormed
  | null => exact fun stack rest ready => build_cons (place_ne_stuck ready _)
  | bool => exact fun stack rest ready => build_cons (place_ne_stuck ready _)
  | number => exact fun stack rest ready => build_cons (place_ne_stuck ready _)
  | string => exact fun stack rest ready => build_cons (place_ne_stuck ready _)
  | array items closed inductionHypothesis =>
      rcases (wellFormed_array_iff items closed).mp wellFormed with ⟨parts, rfl⟩
      have each item listed := inductionHypothesis item listed (parts item listed)
      intro stack rest ready
      rw [tokens, itemTokens_eq, List.cons_append, build_cons (by rintro ⟨⟩)]
      cases items with
      | nil => exact build_cons (place_ne_stuck ready _)
      | cons item others =>
          have inside : Ready (.array [] :: stack) := by
            rintro _ _ ⟨⟩
          rw [List.map_cons, intercalate_cons, List.append_assoc, List.append_assoc]
          calc some (build (.array [] :: stack) .firstValue _)
              = some (build (.array [] :: stack) .value _) :=
                congrArg some (build_firstValue _ _ _)
            _ = some (build (.array [item] :: stack) .separator _) :=
                each item List.mem_cons_self _ _ inside
            _ = _ := build_items (fun next listed => each next (.tail _ listed)) ready [item] rest
  | object members closed inductionHypothesis =>
      rcases (wellFormed_object_iff members closed).mp wellFormed with ⟨parts, rfl⟩
      have each member listed := inductionHypothesis member listed (parts member listed)
      intro stack rest ready
      rw [tokens, memberTokens_eq, List.cons_append, build_cons (by rintro ⟨⟩)]
      cases members with
      | nil => exact build_cons (place_ne_stuck ready _)
      | cons member others =>
          have inside : Ready (.member [] member.1 :: stack) := by
            rintro _ _ ⟨⟩
          rw [List.map_cons, intercalate_cons, List.append_assoc, List.append_assoc]
          calc some (build (.object [] :: stack) .firstName _)
              = some (build (.member [] member.1 :: stack) .value _) := rfl
            _ = some (build (.object [member] :: stack) .separator _) :=
                each member List.mem_cons_self _ _ inside
            _ = _ := build_members (fun next listed => each next (.tail _ listed)) ready [member] rest

/-! ## What was read is on the stack -/

/-- The parts with a comma after each. -/
def separated (parts : List (List Token)) : List Token :=
  parts.flatMap (· ++ [.comma])

/-- The tokens up to the place where the innermost container waits for its next part. -/
def enclosing : List OpenPart -> List Token
  | [] => []
  | .array done :: outer => enclosing outer ++ .openArray :: separated (done.reverse.map tokens)
  | .object done :: outer => enclosing outer ++ .openObject :: separated (done.reverse.map spelled)
  | .member done name :: outer =>
      enclosing outer ++
        .openObject :: (separated (done.reverse.map spelled) ++ [.string name, .colon])

/-- The tokens that were read lead to the stack and to what may come next. -/
inductive Reached : List OpenPart -> Awaited -> List Token -> Prop where
  | value (stack : List OpenPart) : Reached stack .value (enclosing stack)
  | firstValue (outer : List OpenPart) :
      Reached (.array [] :: outer) .firstValue (enclosing (.array [] :: outer))
  | name (stack : List OpenPart) : Reached stack .name (enclosing stack)
  | firstName (outer : List OpenPart) :
      Reached (.object [] :: outer) .firstName (enclosing (.object [] :: outer))
  | colon {stack : List OpenPart} {read : List Token}
      (next : enclosing stack = read ++ [.colon]) : Reached stack .colon read
  | separator {stack : List OpenPart} {read : List Token}
      (next : enclosing stack = read ++ [.comma]) : Reached stack .separator read

/-- The outcome of a step shows the tokens that were read, unless the step was stuck. -/
def Shows (read : List Token) : Step -> Prop
  | .going stack awaited => Reached stack awaited read
  | .finished outline => outline.tokens = read
  | .stuck => True

theorem shows_place (value : Outline) (stack : List OpenPart) :
    Shows (enclosing stack ++ value.tokens) (place value stack) := by
  cases stack with
  | nil => rfl
  | cons part outer =>
      cases part with
      | array done => exact .separator (by simp [enclosing, separated])
      | object done => trivial
      | member done name => exact .separator (by simp [enclosing, separated, spelled])

theorem shows_startValue (stack : List OpenPart) (token : Token) :
    Shows (enclosing stack ++ [token]) (startValue stack token) := by
  cases token with
  | null => exact shows_place .null stack
  | bool value => exact shows_place (.bool value) stack
  | number value => exact shows_place (.number value) stack
  | string text => exact shows_place (.string text) stack
  | openArray => exact .firstValue stack
  | openObject => exact .firstName stack
  | _ => trivial

/-- Between brackets the parts stand as they do with a comma after each, without the last
comma. -/
theorem intercalate_of_separated {front read : List Token} {first : Token}
    {parts : List (List Token)} (other : first ≠ .comma)
    (next : front ++ first :: separated parts = read ++ [.comma]) :
    read = front ++ first :: [Token.comma].intercalate parts := by
  have nonempty : parts ≠ [] := by
    rintro rfl
    exact other (List.append_singleton_inj.mp next).2
  rw [separated, ← intercalate_append _ nonempty, ← List.cons_append, ← List.append_assoc] at next
  exact (List.append_singleton_inj.mp next).1.symm

theorem shows_closeArray {stack : List OpenPart} {read : List Token}
    (next : enclosing stack = read ++ [.comma]) :
    Shows (read ++ [.closeArray]) (closeArray stack) := by
  cases stack with
  | nil => trivial
  | cons part outer =>
      cases part with
      | array done =>
          have shown := shows_place (.array done.reverse true) outer
          rw [intercalate_of_separated (by decide) next]
          rw [tokens, itemTokens_eq, ← List.cons_append, ← List.append_assoc] at shown
          exact shown
      | _ => trivial

theorem shows_closeObject {stack : List OpenPart} {read : List Token}
    (next : enclosing stack = read ++ [.comma]) :
    Shows (read ++ [.closeObject]) (closeObject stack) := by
  cases stack with
  | nil => trivial
  | cons part outer =>
      cases part with
      | object done =>
          have shown := shows_place (.object done.reverse true) outer
          rw [intercalate_of_separated (by decide) next]
          rw [tokens, memberTokens_eq, ← List.cons_append, ← List.append_assoc] at shown
          exact shown
      | _ => trivial

theorem shows_startMember (stack : List OpenPart) (token : Token) :
    Shows (enclosing stack ++ [token]) (startMember stack token) := by
  unfold startMember
  split
  · exact .colon (by simp [enclosing])
  · trivial

/-- One token more was read after a step. -/
theorem shows_step {stack : List OpenPart} {awaited : Awaited} {read : List Token}
    (reached : Reached stack awaited read) (token : Token) :
    Shows (read ++ [token]) (step stack awaited token) := by
  cases reached with
  | value => exact shows_startValue stack token
  | firstValue outer =>
      cases token with
      | closeArray =>
          have shown := shows_place (.array [] true) outer
          simp only [tokens, itemTokens, List.intercalate_nil, List.nil_append] at shown
          rw [enclosing, List.append_assoc]
          exact shown
      | _ => exact shows_startValue _ _
  | name => exact shows_startMember stack token
  | firstName outer =>
      cases token with
      | closeObject =>
          have shown := shows_place (.object [] true) outer
          simp only [tokens, memberTokens, List.intercalate_nil, List.nil_append] at shown
          rw [enclosing, List.append_assoc]
          exact shown
      | _ => exact shows_startMember _ _
  | colon next =>
      cases token with
      | colon =>
          rw [← next]
          exact .value stack
      | _ => trivial
  | separator next =>
      cases token with
      | comma =>
          rw [← next]
          cases stack with
          | nil => trivial
          | cons part outer =>
              cases part with
              | array => exact .value _
              | object => exact .name _
              | member => trivial
      | closeArray => exact shows_closeArray next
      | closeObject => exact shows_closeObject next
      | _ => trivial

/-- A text that breaks off is not well formed. -/
theorem wellFormed_breakOff (stack : List OpenPart) (part : Option Outline)
    (broken : ∀ outline ∈ part, outline.wellFormed = false) :
    (breakOff part stack).wellFormed = false := by
  have unclosed {inner : Outline} (bad : inner.wellFormed = false) :
      ∀ outline ∈ some inner, outline.wellFormed = false := by
    rintro _ ⟨⟩
    exact bad
  have array (items : List Outline) : (Outline.array items false).wellFormed = false := by
    simp [wellFormed]
  have object (members : List (Option String × Outline)) :
      (Outline.object members false).wellFormed = false := by
    simp [wellFormed]
  induction stack generalizing part with
  | nil =>
      cases part with
      | none => rfl
      | some outline => exact broken outline rfl
  | cons opened outer inductionHypothesis =>
      cases opened with
      | array done => cases part <;> exact inductionHypothesis _ (unclosed (array _))
      | object done => cases part <;> exact inductionHypothesis _ (unclosed (object _))
      | member done name => cases part <;> exact inductionHypothesis _ (unclosed (object _))

/-- What is well formed was read from its tokens. -/
theorem tokens_of_build {stack : List OpenPart} {awaited : Awaited} {read input rest : List Token}
    {outline : Outline} (reached : Reached stack awaited read)
    (built : build stack awaited input = (outline, rest))
    (wellFormed : outline.wellFormed = true) : read ++ input = outline.tokens ++ rest := by
  have noPart : ∀ outline ∈ (none : Option Outline), outline.wellFormed = false := by
    rintro _ ⟨⟩
  induction input generalizing stack awaited read with
  | nil =>
      cases built
      rw [wellFormed_breakOff stack none noPart] at wellFormed
      cases wellFormed
  | cons token others inductionHypothesis =>
      have shown := shows_step reached token
      rw [build] at built
      rw [← List.singleton_append, ← List.append_assoc]
      cases stepped : step stack awaited token with
      | going deeper next =>
          rw [stepped] at shown built
          exact inductionHypothesis shown built
      | finished value =>
          rw [stepped] at shown built
          cases built
          rw [← shown]
      | stuck =>
          rw [stepped] at built
          cases built
          rw [wellFormed_breakOff stack none noPart] at wellFormed
          cases wellFormed

/-- A text writes a value exactly if it is read as this value and nothing follows. -/
theorem writtenBy_iff (outline : Outline) (text : String) :
    outline.WrittenBy text <-> outline.wellFormed = true ∧ ofText text = (outline, false) := by
  constructor
  · rintro ⟨wellFormed, written⟩
    have leads := leads_of_wellFormed wellFormed [] [] (by rintro _ _ ⟨⟩)
    rw [List.append_nil, ← written] at leads
    refine ⟨wellFormed, ?_⟩
    rw [ofText, Option.some.inj leads]
    rfl
  · rintro ⟨wellFormed, read⟩
    rw [ofText] at read
    cases built : build [] .value (tokensOf text.toList) with
    | mk value rest =>
        rw [built] at read
        cases rest with
        | nil =>
            cases read
            have same := tokens_of_build (.value []) built wellFormed
            rw [List.append_nil] at same
            exact ⟨wellFormed, same⟩
        | cons => simp at read

/-- The outline of a text is told by the tokens that the text is cut into. -/
theorem ofText_of_tokens {outline : Outline} {text : String}
    (wellFormed : outline.wellFormed = true) (written : tokensOf text.toList = outline.tokens) :
    ofText text = (outline, false) :=
  ((writtenBy_iff outline text).mp ⟨wellFormed, written⟩).2

end Outline
end Json
end ItemModels

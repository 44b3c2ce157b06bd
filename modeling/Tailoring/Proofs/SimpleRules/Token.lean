import Tailoring.Proofs.Outcome
import Tailoring.Proofs.Text.Scalar
import Tailoring.SimpleRules

/-!
# The tokens of simple rules

Simple rules tell an order token by token. An item orders one token, or one for
each scalar of a sequence, and drafting an item is drafting its tokens: after
the first token of a sequence the draft is ready for the others as it is.
-/

set_option autoImplicit false

namespace Tailoring

namespace SimpleRules

/-- Characters, and how they differ from those before them in the order. -/
structure Token where
  strength : Strength
  text : Text
  deriving DecidableEq

/-- Drafts one token. -/
def Draft.add (newline : Text) (draft : Draft) (token : Token) : Draft :=
  (prepare newline token.strength draft).append
    ((separator? newline token.strength).getD [] ++ token.text)

theorem inGroup_prepare (newline : Text) (strength : Strength) (draft : Draft) :
    (prepare newline strength draft).inGroup = decide (strength = .tertiary) := by
  unfold prepare
  split
  · unfold Draft.beginGroup
    split
    · simpa
    · rfl
  · next notTertiary =>
      unfold Draft.endGroup
      split
      · simpa using notTertiary
      · next closed => simpa [closed] using notTertiary

theorem prepare_of_ready (newline : Text) {strength : Strength} {draft : Draft}
    (ready : draft.inGroup = decide (strength = .tertiary)) :
    prepare newline strength draft = draft := by
  unfold prepare
  split
  · simp [Draft.beginGroup, ready]
  · next notTertiary =>
      have closed : draft.inGroup = false := by rw [ready]; simpa using notTertiary
      simp [Draft.endGroup, closed]

/-- The tokens of scalars, all of one strength. -/
def Token.each (strength : Strength) (scalars : List Scalar) : List Token :=
  scalars.map fun s => ⟨strength, s.text⟩

theorem foldl_add_of_ready (newline : Text) {strength : Strength} {draft : Draft}
    (ready : draft.inGroup = decide (strength = .tertiary)) (scalars : List Scalar) :
    (Token.each strength scalars).foldl (Draft.add newline) draft =
      draft.append (scalars.flatMap fun s =>
        (separator? newline strength).getD [] ++ s.text) := by
  induction scalars generalizing draft with
  | nil => simp [Token.each, Draft.append]
  | cons s scalars ih =>
      have added : draft.add newline ⟨strength, s.text⟩ =
          draft.append ((separator? newline strength).getD [] ++ s.text) := by
        rw [Draft.add, prepare_of_ready newline ready]
      have still : (draft.add newline ⟨strength, s.text⟩).inGroup =
          decide (strength = .tertiary) := by
        rw [added]
        exact ready
      rw [Token.each, List.map_cons, List.foldl_cons, ← Token.each, ih still, added]
      simp [Draft.append]

/-- A sequence is drafted like its scalars one by one, if it has any. -/
theorem appendEach_eq_foldl_add (newline : Text) {strength : Strength} {separator data : Text}
    (separated : separator? newline strength = some separator) (present : data ≠ [])
    (draft : Draft) :
    (prepare newline strength draft).appendEach separator data =
      (Token.each strength (Text.scalars data)).foldl (Draft.add newline) draft := by
  have ready := inGroup_prepare newline strength draft
  have drafted := foldl_add_of_ready newline ready (Text.scalars data)
  rw [separated, Option.getD_some] at drafted
  rw [Draft.appendEach, ← drafted]
  obtain ⟨first, rest, scalars⟩ := List.exists_cons_of_ne_nil (Text.scalars_ne_nil present)
  simp only [scalars, Token.each, List.map_cons, List.foldl_cons, Draft.add,
    prepare_of_ready newline ready]

end SimpleRules

namespace Item

/-- The tokens of an item of the simple dialect. -/
inductive Orders : Item → List SimpleRules.Token → Prop where
  | relation {item strength data} :
      item.role? = some (.relation strength) → item.data = .ok data →
      Orders item [⟨strength, data⟩]
  | sequence {item strength data} :
      item.role? = some (.sequence strength) → item.data = .ok data →
      Orders item (SimpleRules.Token.each strength (Text.scalars data))

/-- The tokens of items, in document order. -/
def OrderAll (items : List Item) (tokens : List SimpleRules.Token) : Prop :=
  ∃ parts, List.Forall₂ Orders items parts ∧ parts.flatten = tokens

end Item

namespace SimpleRules

theorem ne_identical_of_separator? {newline separator : Text} {strength : Strength}
    (separated : separator? newline strength = some separator) : strength ≠ .identical := by
  rintro rfl
  cases separated

/-- An accepted item with data drafts its tokens, none of them identical to what
comes before it. -/
theorem addItem_eq_foldl_add {newline data : Text} {item : Item} {draft draft' : Draft}
    (read : item.data = .ok data) (present : data ≠ [])
    (added : addItem newline draft item = .ok (some draft')) :
    ∃ tokens, item.Orders tokens ∧ (∀ token ∈ tokens, token.strength ≠ .identical) ∧
      tokens.foldl (Draft.add newline) draft = draft' := by
  unfold addItem at added
  split at added
  · next strength role =>
      split at added
      · next separator separated =>
          rw [read] at added
          cases added
          refine ⟨_, .relation role read, ?_, ?_⟩
          · simpa using ne_identical_of_separator? separated
          · simp [Draft.add, separated]
      · cases added
  · next strength role =>
      split at added
      · next separator separated =>
          rw [read] at added
          cases added
          refine ⟨_, .sequence role read, ?_, ?_⟩
          · simpa [Token.each] using fun s _ => ne_identical_of_separator? separated
          · exact (appendEach_eq_foldl_add newline separated present draft).symm
      · cases added
  · cases added

theorem addItems_eq_foldl_add {newline : Text} {items : List Item} {draft draft' : Draft}
    (read : ∀ item ∈ items, ∃ data, item.data = .ok data ∧ data ≠ [])
    (added : addItems newline draft items = .ok (some draft')) :
    ∃ tokens, Item.OrderAll items tokens ∧ (∀ token ∈ tokens, token.strength ≠ .identical) ∧
      tokens.foldl (Draft.add newline) draft = draft' := by
  induction items generalizing draft with
  | nil =>
      cases added
      exact ⟨[], ⟨[], .nil, rfl⟩, by simp, rfl⟩
  | cons item items ih =>
      obtain ⟨data, readFirst, present⟩ := read item (by simp)
      obtain ⟨between?, addedFirst, added⟩ := Outcome.bind_eq_ok_iff.mp added
      cases between? with
      | none => cases added
      | some between =>
          obtain ⟨first, ordersFirst, toldFirst, rfl⟩ :=
            addItem_eq_foldl_add readFirst present addedFirst
          obtain ⟨rest, ⟨parts, orders, rfl⟩, told, rfl⟩ :=
            ih (fun later member => read later (.tail _ member)) added
          refine ⟨first ++ parts.flatten, ⟨first :: parts, .cons ordersFirst orders, rfl⟩, ?_, ?_⟩
          · intro token member
            rcases List.mem_append.mp member with member | member
            · exact toldFirst token member
            · exact told token member
          · rw [List.foldl_append]

theorem isStart_eq_true_iff {item : Item} :
    isStart item = .ok true ↔ item.role? = some .reset ∧
      item.beforeOption = .ok "[before 1] " ∧ item.literal = .ok "[first regular]" := by
  constructor
  · intro starts
    unfold isStart at starts
    split at starts
    · next role =>
        obtain ⟨before, option, starts⟩ := Outcome.bind_eq_ok_iff.mp starts
        split at starts
        · next first =>
            obtain ⟨position, literal, starts⟩ := Outcome.bind_eq_ok_iff.mp starts
            have regular : position = "[first regular]" := by
              simpa [pure, Except.pure] using starts
            exact ⟨role, first ▸ option, regular ▸ literal⟩
        · cases starts
    · cases starts
  · rintro ⟨role, option, literal⟩
    simp [isStart, role, option, literal, bind, Except.bind, pure, Except.pure]

theorem ofItems_cons_eq_some {newline text : Text} {first : Item} {rest : List Item}
    (accepted : ofItems newline (first :: rest) = .ok (some text)) :
    isStart first = .ok true ∧ ∃ draft, addItems newline {} rest = .ok (some draft) ∧
      Text.trim draft.endGroup.text = text := by
  obtain ⟨starts, started, accepted⟩ := Outcome.bind_eq_ok_iff.mp accepted
  cases starts with
  | false => cases accepted
  | true =>
      obtain ⟨draft?, added, accepted⟩ := Outcome.bind_eq_ok_iff.mp accepted
      cases draft? with
      | none => cases accepted
      | some draft =>
          cases accepted
          exact ⟨started, draft, added, rfl⟩

end SimpleRules

end Tailoring

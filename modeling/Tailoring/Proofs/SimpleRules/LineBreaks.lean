import Tailoring.Proofs.IcuRules.LineBreaks
import Tailoring.Proofs.SimpleRules.Token

/-!
# Line breaks in simple rules

Simple rules do not only write line breaks, they look for the last one to place
an opening bracket. With the longer line break it is found where it corresponds
to, also if the content has carriage returns, as long as it has no line feeds.
With this, both kinds of rules are the same up to the line breaks.
-/

set_option autoImplicit false

namespace Tailoring

open Text (withReturns)

namespace SimpleRules

namespace Draft

/-- The draft with a carriage return before each line feed. -/
def withReturns (draft : Draft) : Draft :=
  { draft with text := draft.text.withReturns }

theorem append_withReturns (draft : Draft) (added : Text) :
    draft.withReturns.append added.withReturns = (draft.append added).withReturns := by
  simp [append, withReturns]

theorem endGroup_withReturns (draft : Draft) :
    draft.withReturns.endGroup = draft.endGroup.withReturns := by
  have bracket : Text.withReturns ")" = ")" := by decide
  unfold endGroup
  cases grouped : draft.inGroup with
  | true => simp [withReturns, grouped, bracket]
  | false => simp [withReturns, grouped]

theorem tokenStart_withReturns (t : Text) :
    tokenStart "\r\n" t.withReturns = (Text.withReturns (t.take (tokenStart "\n" t))).length := by
  have otherThanBreak : space ≠ carriageReturn ∧ space ≠ lineFeed := by decide
  have afterBreak := (Text.foundAlike_lineFeed t).after rfl
  have afterSpace := (Text.foundAlike_of_ne otherThanBreak.1 otherThanBreak.2 t).after rfl
  unfold tokenStart
  rw [Text.length_withReturns_take_max]
  exact congrArg₂ max afterBreak afterSpace

theorem beginGroup_withReturns (draft : Draft) :
    draft.withReturns.beginGroup "\r\n" = (draft.beginGroup "\n").withReturns := by
  have bracket : Text.withReturns "(" = "(" := by decide
  unfold beginGroup
  cases grouped : draft.inGroup with
  | true => simp [withReturns, grouped]
  | false =>
      have start := tokenStart_withReturns draft.text
      have halves : draft.text.withReturns =
          Text.withReturns (draft.text.take (tokenStart "\n" draft.text)) ++
            Text.withReturns (draft.text.drop (tokenStart "\n" draft.text)) := by
        rw [← Text.withReturns_append, List.take_append_drop]
      simp only [withReturns, grouped, Bool.false_eq_true, if_false, start,
        Text.withReturns_append, bracket]
      rw [halves, List.take_left, List.drop_left]

end Draft

theorem prepare_withReturns (strength : Strength) (draft : Draft) :
    prepare "\r\n" strength draft.withReturns = (prepare "\n" strength draft).withReturns := by
  cases strength with
  | tertiary => exact draft.beginGroup_withReturns
  | primary => exact draft.endGroup_withReturns
  | secondary => exact draft.endGroup_withReturns
  | identical => exact draft.endGroup_withReturns

theorem separator?_withReturns (strength : Strength) :
    separator? "\r\n" strength = (separator? "\n" strength).map withReturns := by
  cases strength with
  | primary => rfl
  | secondary => rfl
  | tertiary => rfl
  | identical => rfl

theorem withReturns_flatMap_scalars {data : Text} (unbroken : lineFeed ∉ data) (separator : Text) :
    withReturns ((Text.scalars data).flatMap fun s => separator ++ s.text) =
      (Text.scalars data).flatMap fun s => withReturns separator ++ s.text := by
  have texts : ∀ s ∈ Text.scalars data, lineFeed ∉ s.text := fun s listed inside =>
    unbroken (Text.mem_of_mem_scalars listed inside)
  generalize Text.scalars data = scalars at texts ⊢
  induction scalars with
  | nil => rfl
  | cons s scalars ih =>
      rw [List.flatMap_cons, List.flatMap_cons, Text.withReturns_append, Text.withReturns_append,
        Text.withReturns_of_not_mem (texts s (by simp)),
        ih fun later member => texts later (.tail _ member)]

theorem addItem_withReturns {item : Item} (oneLine : item.OnOneLine) (draft : Draft) :
    addItem "\r\n" draft.withReturns item =
      (addItem "\n" draft item).map (Option.map Draft.withReturns) := by
  unfold addItem
  split
  · next strength _ =>
      rw [separator?_withReturns]
      cases separator? "\n" strength with
      | none => rfl
      | some separator =>
          cases read : item.data with
          | error fault => rfl
          | ok data =>
              have kept := Text.withReturns_of_not_mem (oneLine.data read)
              have drafted := (prepare "\n" strength draft).append_withReturns (separator ++ data)
              rw [Text.withReturns_append, kept, ← prepare_withReturns] at drafted
              exact congrArg (Except.ok ∘ some) drafted
  · next strength _ =>
      rw [separator?_withReturns]
      cases separator? "\n" strength with
      | none => rfl
      | some separator =>
          cases read : item.data with
          | error fault => rfl
          | ok data =>
              have kept := withReturns_flatMap_scalars (oneLine.data read) separator
              have drafted := (prepare "\n" strength draft).append_withReturns
                ((Text.scalars data).flatMap fun s => separator ++ s.text)
              rw [kept, ← prepare_withReturns] at drafted
              exact congrArg (Except.ok ∘ some) drafted
  · rfl

/-- Two runs over the same items, from drafts that correspond. -/
theorem addItems_withReturns {items : List Item} (oneLine : ∀ item ∈ items, item.OnOneLine)
    (draft : Draft) :
    addItems "\r\n" draft.withReturns items =
      (addItems "\n" draft items).map (Option.map Draft.withReturns) := by
  induction items generalizing draft with
  | nil => rfl
  | cons item items ih =>
      rw [addItems, addItems, addItem_withReturns (oneLine item (by simp))]
      cases addItem "\n" draft item with
      | error fault => rfl
      | ok added =>
          cases added with
          | none => rfl
          | some next => exact ih (fun later member => oneLine later (.tail _ member)) next

theorem ofItems_withReturns {items : List Item} (oneLine : ∀ item ∈ items, item.OnOneLine) :
    ofItems "\r\n" items = (ofItems "\n" items).map (Option.map withReturns) := by
  cases items with
  | nil => rfl
  | cons first rest =>
      have drafted : addItems "\r\n" {} rest = _ :=
        addItems_withReturns (fun item member => oneLine item (.tail _ member)) {}
      simp only [ofItems, drafted]
      cases isStart first with
      | error fault => rfl
      | ok starts =>
          cases starts with
          | false => rfl
          | true =>
              cases addItems "\n" {} rest with
              | error fault => rfl
              | ok added =>
                  cases added with
                  | none => rfl
                  | some draft =>
                      have trimmed : Text.trim draft.withReturns.endGroup.text =
                          withReturns (Text.trim draft.endGroup.text) := by
                        rw [draft.endGroup_withReturns]
                        exact Text.trim_withReturns draft.endGroup.text
                      exact congrArg (Except.ok ∘ some) trimmed

end SimpleRules

namespace Collation

/-- With the longer line break both kinds of rules are what they are with the
shorter, with each line feed replaced; and what cannot be written with the one
cannot be written with the other, for the same reason. -/
theorem rules_withReturns {collation : Collation} (oneLine : collation.OnOneLine) :
    collation.icuRules "\r\n" = (collation.icuRules "\n").map withReturns ∧
      collation.simpleRules? "\r\n" =
        (collation.simpleRules? "\n").map (Option.map withReturns) := by
  refine ⟨icuRules_withReturns oneLine, ?_⟩
  have items := oneLine.items
  unfold simpleRules?
  split
  · rfl
  · rfl
  · next given =>
      rw [given] at items
      exact SimpleRules.ofItems_withReturns items

/-- Data that ends and data that begins with a carriage return, beside a line break
and in a group. -/
theorem rules_withReturns_beside_return :
    let collation : Collation :=
      { optimize := some "[x]"
        rules := some
          [{ kind := "reset", before := some "primary", anchor := some "first_non_ignorable" },
            { kind := "p", text := "a\r" }, { kind := "p", codePoints := ["62"] },
            { kind := "t", text := "\rc" }] }
    collation.OnOneLine ∧
      collation.icuRules "\r\n" =
        .ok ("[optimize [x]]\r\n& [before 1] [first regular] < a'\r' < b <<< '\r'c" : Text) ∧
      collation.simpleRules? "\r\n" = .ok (some ("a\r\r\n(b \rc)" : Text)) := by
  intro collation
  have start : Item.OnOneLine
      { kind := "reset", before := some "primary", anchor := some "first_non_ignorable" } :=
    ⟨by decide, by simp, by rintro _ ⟨⟩; decide⟩
  have plain : ∀ kind text : Text, lineFeed ∉ text → Item.OnOneLine { kind, text } :=
    fun _ _ unbroken => ⟨unbroken, by simp, by simp⟩
  have referring : Item.OnOneLine { kind := "p", codePoints := ["62"] } := by
    refine ⟨by decide, fun digits listed => ?_, by simp⟩
    cases List.mem_singleton.mp listed
    rintro _ ⟨⟩
    decide
  have oneLine : collation.OnOneLine :=
    { values := by simp [collation]
      variableTops := by simp [collation]
      suppressContractions := by simp [collation]
      optimize := by rintro _ ⟨⟩; decide
      items := by
        simpa [collation] using
          ⟨start, plain "p" "a\r" (by decide), referring, plain "t" "\rc" (by decide)⟩
      parts := by simp [collation] }
  obtain ⟨icu, simple⟩ := rules_withReturns oneLine
  exact ⟨oneLine, icu.trans (by decide +kernel), simple.trans (by decide +kernel)⟩

end Collation

end Tailoring

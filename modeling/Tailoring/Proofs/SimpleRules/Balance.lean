import Tailoring.Proofs.SimpleRules.Nesting

/-!
# The balance of a draft

Steps may be taken in any order, also in one that no rules lead to. Brackets may
then stand in one another, and where a bracket opens depends on the line break and
on the data. What is kept is that the brackets come on top of what has been added,
that none closes which has not been opened, and that as many are left open as the
draft says.
-/

set_option autoImplicit false

namespace Tailoring.SimpleRules

/-- A text less its brackets. -/
def withoutBrackets (t : Text) : Text :=
  t.filter fun c => !isBracket c

@[simp]
theorem withoutBrackets_append (front back : Text) :
    withoutBrackets (front ++ back) = withoutBrackets front ++ withoutBrackets back :=
  List.filter_append front back

theorem withoutBrackets_of_free {t : Text} (free : brackets t = []) : withoutBrackets t = t := by
  apply List.filter_eq_self.mpr
  intro c member
  simpa using List.filter_eq_nil_iff.mp free c member

theorem count_eq_zero_of_free {t part : Text} (free : brackets t = []) (within : part ⊆ t)
    {c : CodePoint} (bracket : isBracket c = true) : part.count c = 0 := by
  apply List.count_eq_zero.mpr
  intro member
  exact List.filter_eq_nil_iff.mp free c (within member) bracket

/-! ## Brackets that close -/

/-- Nowhere in a text have more brackets closed than opened. -/
def NeverOverclosed (t : Text) : Prop :=
  ∀ front, front <+: t → front.count closing ≤ front.count opening

namespace NeverOverclosed

/-- Beyond a text it is enough to look at what comes after it. -/
theorem of_front {front back : Text} (before : NeverOverclosed front)
    (beyond : ∀ more, more <+: back →
      (front ++ more).count closing ≤ (front ++ more).count opening) :
    NeverOverclosed (front ++ back) := by
  intro part first
  rcases List.prefix_or_prefix_of_prefix first (List.prefix_append front back) with
    within | ⟨more, rfl⟩
  · exact before part within
  · exact beyond more ((List.prefix_append_right_inj front).mp first)

theorem append_free {t added : Text} (covered : NeverOverclosed t) (free : brackets added = []) :
    NeverOverclosed (t ++ added) := by
  apply covered.of_front
  intro more first
  have sofar := covered t List.prefix_rfl
  rw [List.count_append, List.count_append, count_eq_zero_of_free free first.subset (by decide),
    count_eq_zero_of_free free first.subset (by decide)]
  exact sofar

theorem append_closing {t : Text} (covered : NeverOverclosed t)
    (isOpen : t.count opening = t.count closing + 1) : NeverOverclosed (t ++ [closing]) := by
  apply covered.of_front
  intro more first
  have once : more.count closing ≤ 1 := by
    simpa using first.sublist.count_le closing
  rw [List.count_append, List.count_append]
  omega

/-- Another bracket may open anywhere. -/
theorem insert_opening {front back : Text} (covered : NeverOverclosed (front ++ back)) :
    NeverOverclosed (front ++ [opening] ++ back) := by
  have before : NeverOverclosed front := fun part first =>
    covered part (first.trans (List.prefix_append front back))
  rw [List.append_assoc]
  apply before.of_front
  intro more first
  cases more with
  | nil => simpa using before front List.prefix_rfl
  | cons c more =>
      obtain ⟨rfl, later⟩ := List.cons_prefix_cons.mp first
      have without := covered (front ++ more) ((List.prefix_append_right_inj front).mpr later)
      rw [List.append_cons, count_opening_insert, count_closing_insert]
      omega

end NeverOverclosed

/-! ## Steps -/

namespace Draft

/-- A step in which a draft is made. -/
inductive Step where
  | append (added : Text)
  | appendEach (separator data : Text)
  | beginGroup
  | endGroup

namespace Step

/-- The texts that a step is given. -/
def texts : Step → List Text
  | append added => [added]
  | appendEach separator data => [separator, data]
  | beginGroup | endGroup => []

/-- What a step adds to a draft, brackets apart. -/
def added : Step → Text
  | append added => added
  | appendEach separator data => (Text.scalars data).flatMap fun s => separator ++ s.text
  | beginGroup | endGroup => []

end Step

/-- Takes a step. -/
def step (newline : Text) (draft : Draft) : Step → Draft
  | .append added => draft.append added
  | .appendEach separator data => draft.appendEach separator data
  | .beginGroup => draft.beginGroup newline
  | .endGroup => draft.endGroup

/-- The draft that steps lead to from the start. -/
def ofSteps (newline : Text) (steps : List Step) : Draft :=
  steps.foldl (step newline) {}

/-- A draft is what has been added to it and brackets. None of them closes unopened, and
one is left open in a group, none outside. -/
structure Balanced (draft : Draft) (added : Text) : Prop where
  content : withoutBrackets draft.text = added
  covered : NeverOverclosed draft.text
  level : draft.text.count opening = draft.text.count closing + draft.inGroup.toNat

theorem balanced_empty : Balanced {} [] where
  content := rfl
  covered := by
    intro front first
    rw [List.prefix_nil.mp first]
    exact Nat.le_refl 0
  level := rfl

namespace Balanced

variable {newline added : Text} {draft : Draft}

theorem append (balanced : draft.Balanced added) {more : Text} (free : brackets more = []) :
    (draft.append more).Balanced (added ++ more) where
  content := by
    rw [Draft.append, withoutBrackets_append, balanced.content, withoutBrackets_of_free free]
  covered := balanced.covered.append_free free
  level := by
    rw [Draft.append, List.count_append, List.count_append,
      count_eq_zero_of_free free (List.Subset.refl more) (by decide),
      count_eq_zero_of_free free (List.Subset.refl more) (by decide)]
    exact balanced.level

theorem endGroup (balanced : draft.Balanced added) : draft.endGroup.Balanced added := by
  unfold Draft.endGroup
  split
  · next inGroup =>
      have isOpen := balanced.level
      rw [inGroup] at isOpen
      constructor
      · rw [withoutBrackets_append, balanced.content]
        exact List.append_nil added
      · exact balanced.covered.append_closing isOpen
      · change (draft.text ++ [closing]).count opening = (draft.text ++ [closing]).count closing
        rw [List.count_append, List.count_append, isOpen]
        rfl
  · exact balanced

theorem beginGroup (balanced : draft.Balanced added) :
    (draft.beginGroup newline).Balanced added := by
  unfold Draft.beginGroup
  split
  · exact balanced
  · next outside =>
      -- it does not matter where the last token starts
      generalize tokenStart newline draft.text = start
      have whole := List.take_append_drop start draft.text
      constructor
      · have bracket : withoutBrackets "(" = [] := by decide
        rw [withoutBrackets_append, withoutBrackets_append, bracket, List.append_nil,
          ← withoutBrackets_append, whole, balanced.content]
      · exact NeverOverclosed.insert_opening (whole.symm ▸ balanced.covered)
      · have level := balanced.level
        rw [← whole, Bool.eq_false_iff.mpr outside] at level
        change (draft.text.take start ++ [opening] ++ draft.text.drop start).count opening =
          (draft.text.take start ++ [opening] ++ draft.text.drop start).count closing + 1
        rw [count_opening_insert, count_closing_insert, level]
        rfl

theorem step (balanced : draft.Balanced added) (newline : Text) {next : Step}
    (free : ∀ t ∈ next.texts, brackets t = []) :
    (draft.step newline next).Balanced (added ++ next.added) := by
  cases next with
  | append more => exact balanced.append (free more (by simp [Step.texts]))
  | appendEach separator data =>
      exact balanced.append (brackets_flatMap_scalars (free separator (by simp [Step.texts]))
        (free data (by simp [Step.texts])))
  | beginGroup =>
      rw [Step.added, List.append_nil]
      exact balanced.beginGroup
  | endGroup =>
      rw [Step.added, List.append_nil]
      exact balanced.endGroup

theorem foldl_step (balanced : draft.Balanced added) {steps : List Step}
    (free : ∀ step ∈ steps, ∀ t ∈ step.texts, brackets t = []) :
    (steps.foldl (Draft.step newline) draft).Balanced (added ++ steps.flatMap Step.added) := by
  induction steps generalizing draft added with
  | nil => simpa using balanced
  | cons first steps ih =>
      have stepped := balanced.step newline (free first List.mem_cons_self)
      have completed := ih stepped fun later member => free later (.tail _ member)
      rwa [List.append_assoc] at completed

end Balanced

/-- Whatever the line break, and in whatever order steps are taken on texts without
brackets, the draft is balanced after each of them. -/
theorem ofSteps_balanced (newline : Text) (steps : List Step)
    (free : ∀ step ∈ steps, ∀ t ∈ step.texts, brackets t = []) :
    ∀ taken, taken <+: steps → (ofSteps newline taken).Balanced (taken.flatMap Step.added) := by
  intro taken first
  exact balanced_empty.foldl_step fun step member => free step (first.subset member)

/-- The line break occurs in the data, overlapping itself, and a group begins within one
that has been closed. -/
theorem ofSteps_balanced_within_group :
    let steps : List Step :=
      [.endGroup, .append "aaa b", .beginGroup, .beginGroup, .appendEach " " "cd", .endGroup,
        .beginGroup, .append "x"]
    (∀ step ∈ steps, ∀ t ∈ step.texts, brackets t = []) ∧
      ofSteps "aa" (steps.take 2) = { text := "aaa b", inGroup := false } ∧
      ofSteps "aa" steps = { text := "aaa (b c (d)x", inGroup := true } ∧
      (ofSteps "aa" steps).Balanced "aaa b c dx" := by
  intro steps
  have free : ∀ step ∈ steps, ∀ t ∈ step.texts, brackets t = [] := by decide
  exact ⟨free, by decide, by decide, ofSteps_balanced "aa" steps free steps List.prefix_rfl⟩

end Draft

end Tailoring.SimpleRules

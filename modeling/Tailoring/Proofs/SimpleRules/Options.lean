import Tailoring.Format
import Tailoring.Proofs.SimpleRules.Agreement
import Tailoring.Proofs.Text.Layout

/-!
# Options and simple rules

The options of a collation are directives of ICU rules, which no trimming takes
away. Simple rules have no place for them and do not look at them: a collation
that could be written as simple rules without its options is written so with
them, and the options are lost.
-/

set_option autoImplicit false

namespace Tailoring

theorem IcuRules.solid_trim (rules : Text) : (IcuRules.trim rules).solid = rules.solid := by
  unfold IcuRules.trim
  split
  · exact Text.solid_trimStart rules
  · exact Text.solid_trim rules

theorem OptionName.solid_render_ne_nil (newline value : Text) (option : OptionName) :
    (option.render newline value).solid ≠ [] := by
  have bracket : Text.solid "[" ≠ [] := by decide
  simp [OptionName.render, Text.solid_append, bracket]

namespace Collation

/-- The same collation without its options. -/
def withoutOptions (collation : Collation) : Collation :=
  { collation with suppressContractions := none, optimize := none }

theorem withoutOptions_of_none {collation : Collation}
    (noSuppression : collation.suppressContractions = none)
    (noOptimization : collation.optimize = none) : collation.withoutOptions = collation := by
  obtain ⟨settings, suppressContractions, optimize, rules⟩ := collation
  cases noSuppression
  cases noOptimization
  rfl

theorem options_of_solid_optionDirectives {newline : Text} {collation : Collation}
    (unwritten : (collation.optionDirectives newline).solid = []) :
    collation.suppressContractions = none ∧ collation.optimize = none := by
  rw [optionDirectives, Text.solid_append, List.append_eq_nil_iff] at unwritten
  obtain ⟨unsuppressed, unoptimized⟩ := unwritten
  constructor
  · cases given : collation.suppressContractions with
    | none => rfl
    | some value =>
        rw [given] at unsuppressed
        exact absurd unsuppressed (OptionName.solid_render_ne_nil _ _ _)
  · cases given : collation.optimize with
    | none => rfl
    | some value =>
        rw [given] at unoptimized
        exact absurd unoptimized (OptionName.solid_render_ne_nil _ _ _)

/-- An option that is given shows in ICU rules, if there are any. -/
theorem options_of_icuRules_eq {newline output : Text} {collation : Collation}
    (written : collation.icuRules newline = .ok output)
    (same : collation.withoutOptions.icuRules newline = .ok output) :
    collation.suppressContractions = none ∧ collation.optimize = none := by
  obtain ⟨settings, clauses, said, emitted, shape⟩ := icuRules_eq_ok_iff.mp written
  have bare : collation.withoutOptions.icuRules newline = .ok _ :=
    icuRules_eq_ok_iff.mpr ⟨settings, clauses, said, emitted, rfl⟩
  have texts := congrArg Text.solid (shape.symm.trans (Except.ok.inj (same.symm.trans bare)))
  simp only [IcuRules.solid_trim, Text.solid_append, List.append_assoc,
    List.append_cancel_left_eq] at texts
  have unwritten : (collation.withoutOptions.optionDirectives newline).solid = [] := rfl
  rw [unwritten, List.nil_append, List.append_left_eq_self] at texts
  exact options_of_solid_optionDirectives texts

/-- ICU rules are the same without the options exactly if there are no options, or
no ICU rules. -/
theorem icuRules_eq_withoutOptions_iff {newline : Text} {collation : Collation} :
    collation.icuRules newline = collation.withoutOptions.icuRules newline ↔
      (collation.suppressContractions = none ∧ collation.optimize = none) ∨
        ∃ fault, collation.icuRules newline = .error fault := by
  constructor
  · intro same
    cases written : collation.icuRules newline with
    | error fault => exact .inr ⟨fault, rfl⟩
    | ok output => exact .inl (options_of_icuRules_eq written (same.symm.trans written))
  · rintro (⟨noSuppression, noOptimization⟩ | ⟨fault, rejected⟩)
    · rw [withoutOptions_of_none noSuppression noOptimization]
    · have first := (collation.reports_icuRules newline).eq_error_iff.mp rejected
      have reports := collation.withoutOptions.reports_icuRules newline
      rw [rejected, eq_comm, reports.eq_error_iff]
      exact first

/-- Simple rules, and with them the preferred format, do not change when the
options of a collation are taken away. ICU rules do, unless there is no option, or
an item after the first is empty and there are no ICU rules. -/
theorem simpleRules_ignore_options {newline text : Text} {collation : Collation}
    (accepted : collation.simpleRules? newline = .ok (some text)) :
    Format.preferred.products newline collation = .ok [⟨"-rules.txt", text, .simple⟩] ∧
      collation.withoutOptions.simpleRules? newline = .ok (some text) ∧
      (collation.icuRules newline = collation.withoutOptions.icuRules newline ↔
        (collation.suppressContractions = none ∧ collation.optimize = none) ∨
          ∃ item ∈ (collation.rules.getD []).tail, item.isEmpty = true) := by
  refine ⟨?_, accepted, ?_⟩
  · simp [Format.products, accepted, bind, Except.bind, pure, Except.pure, Format.suffix]
  · rw [icuRules_eq_withoutOptions_iff, exists_error_iff_of_simpleRules accepted]

/-- A set to optimise for is lost. -/
theorem simpleRules_ignore_options_optimize :
    let collation : Collation :=
      { optimize := some "[xyz]"
        rules := some
          [{ kind := "reset", before := some "primary", anchor := some "first_non_ignorable" },
            { kind := "pc", text := "ab" }] }
    collation.simpleRules? [lineFeed] = .ok (some ("a\nb" : Text)) ∧
      Format.preferred.products [lineFeed] collation =
        .ok [⟨"-rules.txt", "a\nb", .simple⟩] ∧
      collation.withoutOptions.simpleRules? [lineFeed] = .ok (some ("a\nb" : Text)) ∧
      ¬(collation.icuRules [lineFeed] = collation.withoutOptions.icuRules [lineFeed]) := by
  intro collation
  have accepted : collation.simpleRules? [lineFeed] = .ok (some ("a\nb" : Text)) := rfl
  obtain ⟨preferred, bare, same⟩ := simpleRules_ignore_options accepted
  refine ⟨accepted, preferred, bare, fun equal => ?_⟩
  rcases same.mp equal with ⟨_, noOptimization⟩ | ⟨item, member, empty⟩
  · cases noOptimization
  · have present : ∀ item ∈ (collation.rules.getD []).tail, item.isEmpty = false := by decide
    rw [present item member] at empty
    cases empty

/-- Characters that start no contraction cannot be told by simple rules, but do not
keep a collation from having them. -/
theorem simpleRules_lose_suppressContractions :
    let collation : Collation :=
      { suppressContractions := some "[b]"
        rules := some
          [{ kind := "reset", before := some "primary", anchor := some "first_non_ignorable" },
            { kind := "p", text := "a" }] }
    collation.simpleRules? [lineFeed] = .ok (some ("a" : Text)) ∧
      collation.icuRules [lineFeed] ≠ collation.withoutOptions.icuRules [lineFeed] := by
  intro collation
  have written : collation.icuRules [lineFeed] =
      .ok ("[suppress contractions [b]]\n& [before 1] [first regular] < a" : Text) := by
    decide +kernel
  have bare : collation.withoutOptions.icuRules [lineFeed] =
      .ok ("& [before 1] [first regular] < a" : Text) := by
    decide +kernel
  refine ⟨by decide +kernel, fun same => ?_⟩
  rw [written, bare] at same
  exact absurd (Except.ok.inj same) (by decide)

end Collation

end Tailoring

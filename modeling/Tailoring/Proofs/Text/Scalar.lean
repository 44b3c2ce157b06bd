import Tailoring.Proofs.Literal.Scan

/-!
# Scalars of a text

The scalars of a text make it up again, and those of two code points are
surrogate pairs. A code point that is not paired with the next one is a scalar by
itself. As a literal a scalar is written like the text that it is.
-/

set_option autoImplicit false

namespace Tailoring

/-- Two code points make a scalar only as a surrogate pair. -/
def Scalar.WellFormed : Scalar → Prop
  | single _ => True
  | pair high low => high.isHighSurrogate = true ∧ low.isLowSurrogate = true

theorem Scalar.text_ne_nil (s : Scalar) : s.text ≠ [] := by
  cases s <;> simp [Scalar.text]

namespace Text

theorem flatMap_text_scalars (t : Text) : (scalars t).flatMap Scalar.text = t := by
  fun_induction scalars t with
  | case1 => rfl
  | case2 c => rfl
  | case3 c d rest _ ih => simp [Scalar.text, ih]
  | case4 c d rest _ ih => simp [Scalar.text, ih]

theorem wellFormed_of_mem_scalars {t : Text} {s : Scalar} (member : s ∈ scalars t) :
    s.WellFormed := by
  fun_induction scalars t with
  | case1 => cases member
  | case2 c =>
      cases List.mem_singleton.mp member
      trivial
  | case3 c d rest surrogates ih =>
      rcases List.mem_cons.mp member with rfl | member
      · simpa [Scalar.WellFormed] using surrogates
      · exact ih member
  | case4 c d rest _ ih =>
      rcases List.mem_cons.mp member with rfl | member
      · trivial
      · exact ih member

theorem scalars_ne_nil {t : Text} (present : t ≠ []) : scalars t ≠ [] := by
  intro empty
  have rebuilt := flatMap_text_scalars t
  rw [empty] at rebuilt
  exact present rebuilt.symm

theorem mem_of_mem_scalars {t : Text} {s : Scalar} {c : CodePoint} (member : s ∈ scalars t)
    (part : c ∈ s.text) : c ∈ t := by
  rw [← flatMap_text_scalars t]
  exact List.mem_flatMap.mpr ⟨s, member, part⟩

theorem scalars_cons_of_not_high {c : CodePoint} (t : Text)
    (notHigh : c.isHighSurrogate = false) : scalars (c :: t) = .single c :: scalars t := by
  cases t with
  | nil => rfl
  | cons d t => simp [scalars, notHigh]

theorem scalars_cons_of_not_low {t : Text} (c : CodePoint)
    (notLow : ∀ d ∈ t.head?, d.isLowSurrogate = false) :
    scalars (c :: t) = .single c :: scalars t := by
  cases t with
  | nil => rfl
  | cons d t => simp [scalars, notLow d rfl]

theorem scalars_pair {high low : CodePoint} (t : Text) (isHigh : high.isHighSurrogate = true)
    (isLow : low.isLowSurrogate = true) :
    scalars (high :: low :: t) = .pair high low :: scalars t := by
  simp [scalars, isHigh, isLow]

end Text

theorem CodePoint.not_isHighSurrogate_of_isLowSurrogate {c : CodePoint} (low : c.isLowSurrogate = true) :
    c.isHighSurrogate = false := by
  simp only [isLowSurrogate, decide_eq_true_eq] at low
  simp only [isHighSurrogate, decide_eq_false_iff_not]
  omega

theorem CodePoint.not_isReserved_of_isSurrogate {c : CodePoint} (surrogate : c.isSurrogate = true) :
    c.isReserved = false := by
  simp only [isSurrogate, isHighSurrogate, isLowSurrogate, Bool.or_eq_true,
    decide_eq_true_eq] at surrogate
  simp only [isReserved, isBlank, Bool.or_eq_false_iff, Bool.and_eq_false_iff,
    decide_eq_false_iff_not]
  omega

theorem Literal.ofScalar_eq_ofText {s : Scalar} (wellFormed : s.WellFormed) :
    ofScalar s = ofText s.text := by
  cases s with
  | single c =>
      rw [Scalar.text, ofText, writeFrom_plain (escapedLength_singleton false c)]
      rfl
  | pair high low =>
      have freeHigh := CodePoint.not_isReserved_of_isSurrogate
        (show high.isSurrogate = true by simp [CodePoint.isSurrogate, wellFormed.1])
      have freeLow := CodePoint.not_isReserved_of_isSurrogate
        (show low.isSurrogate = true by simp [CodePoint.isSurrogate, wellFormed.2])
      have notBackslash : high ≠ backslash := by
        rintro rfl
        exact absurd wellFormed.1 (by decide)
      have plain : escapedLength false [high, low] = 0 := by
        rw [escapedLength_of_not_escapesReserved (by simp [EscapesReserved, freeLow]),
          unicodeEscapeLength_of_ne notBackslash]
      rw [Scalar.text, ofText, writeFrom_plain plain, writeScalar_free false freeHigh,
        writeFrom_plain (escapedLength_singleton false low), writeScalar_free false freeLow]
      simp [ofScalar, writeScalar, Scalar.isReserved, Scalar.text, closing, writeFrom]

end Tailoring

import Mathlib.Data.List.Flatten
import Tailoring.Proofs.Literal.Settled
import Tailoring.Proofs.Text.Scalar

/-!
# What writing a literal puts in

The writer passes on every scalar of its text and puts apostrophes between them,
never inside a surrogate pair. Each step writes what it has read with at most one
apostrophe before it. A text gets none exactly if it is settled, since a span that
is opened has to be closed.
-/

set_option autoImplicit false

namespace Tailoring

namespace CodePoint

theorem not_isHighSurrogate_of_isReserved {c : CodePoint} (reserved : c.isReserved = true) :
    c.isHighSurrogate = false := by
  cases high : c.isHighSurrogate with
  | false => rfl
  | true =>
      rw [not_isReserved_of_isSurrogate (by simp [isSurrogate, high])] at reserved
      cases reserved

theorem not_isHighSurrogate_of_isHexDigit {c : CodePoint} (digit : c.isHexDigit = true) :
    c.isHighSurrogate = false := by
  have ranges := ranges_of_isHexDigit digit
  simp only [isHighSurrogate, decide_eq_false_iff_not]
  omega

end CodePoint

namespace Literal

/-! ## Apostrophes between scalars -/

/-- The second list is the first with apostrophes put in. -/
inductive Interspersed : List Scalar → List Scalar → Prop where
  | nil : Interspersed [] []
  | keep {scalars written} (s : Scalar) :
      Interspersed scalars written → Interspersed (s :: scalars) (s :: written)
  | put {scalars written} :
      Interspersed scalars written → Interspersed scalars (.single apostrophe :: written)

namespace Interspersed

theorem sublist {scalars written : List Scalar} (interspersed : Interspersed scalars written) :
    scalars.Sublist written := by
  induction interspersed with
  | nil => exact .slnil
  | keep s _ ih => exact ih.cons_cons s
  | put _ ih => exact ih.cons _

theorem filter_eq {scalars written : List Scalar} (interspersed : Interspersed scalars written) :
    written.filter (· ≠ .single apostrophe) = scalars.filter (· ≠ .single apostrophe) := by
  induction interspersed with
  | nil => rfl
  | keep s _ ih => rw [List.filter_cons, List.filter_cons, ih]
  | put _ ih => simpa using ih

theorem tail {scalars written : List Scalar} {s : Scalar} (other : s ≠ .single apostrophe)
    (interspersed : Interspersed (s :: scalars) (s :: written)) :
    Interspersed scalars written := by
  cases interspersed with
  | keep _ rest => exact rest
  | put _ => exact absurd rfl other

/-- What is put before a text counts as put in if it is made of apostrophes. -/
theorem pad {scalars : List Scalar} {padding t : Text} (apostrophes : ∀ c ∈ padding, c = apostrophe)
    (interspersed : Interspersed scalars (Text.scalars t)) :
    Interspersed scalars (Text.scalars (padding ++ t)) := by
  induction padding with
  | nil => exact interspersed
  | cons c padding ih =>
      obtain rfl := apostrophes c (by simp)
      rw [List.cons_append, Text.scalars_cons_of_not_high _ (by decide)]
      exact (ih fun later member => apostrophes later (.tail _ member)).put

theorem append {t written : Text} (front : Text)
    (notHigh : ∀ c ∈ front, c.isHighSurrogate = false)
    (interspersed : Interspersed (Text.scalars t) (Text.scalars written)) :
    Interspersed (Text.scalars (front ++ t)) (Text.scalars (front ++ written)) := by
  induction front with
  | nil => exact interspersed
  | cons c front ih =>
      have notHighHere := notHigh c (by simp)
      rw [List.cons_append, List.cons_append, Text.scalars_cons_of_not_high _ notHighHere,
        Text.scalars_cons_of_not_high _ notHighHere]
      exact (ih fun later member => notHigh later (.tail _ member)).keep _

/-- After a high surrogate the writer goes on with the low one as it is, and puts
none where the text has none. -/
theorem after_high {c : CodePoint} {t : Text} (isHigh : c.isHighSurrogate = true)
    (interspersed : Interspersed (Text.scalars t) (Text.scalars (writeFrom 0 false t))) :
    Interspersed (Text.scalars (c :: t)) (Text.scalars (c :: writeFrom 0 false t)) := by
  cases t with
  | nil => exact .keep _ .nil
  | cons d t =>
      by_cases isLow : d.isLowSurrogate = true
      · have free : d.isReserved = false :=
          CodePoint.not_isReserved_of_isSurrogate (by simp [CodePoint.isSurrogate, isLow])
        have notHigh := CodePoint.not_isHighSurrogate_of_isLowSurrogate isLow
        have other : Scalar.single d ≠ .single apostrophe := by
          intro same
          cases same
          exact absurd isLow (by decide)
        have written : writeFrom 0 false (d :: t) = d :: writeFrom 0 false t :=
          writeFrom_free false t free
        rw [written, Text.scalars_cons_of_not_high _ notHigh,
          Text.scalars_cons_of_not_high _ notHigh] at interspersed
        rw [written, Text.scalars_pair _ isHigh isLow, Text.scalars_pair _ isHigh isLow]
        exact (interspersed.tail other).keep _
      · have notLow : d.isLowSurrogate = false := by simpa using isLow
        have notLowWritten :
            ∀ e ∈ (writeFrom 0 false (d :: t)).head?, e.isLowSurrogate = false := by
          intro e starts
          rcases head?_writeFrom starts with rfl | ⟨same, -⟩
          · decide
          · obtain rfl : d = e := Option.some.inj same
            exact notLow
        rw [Text.scalars_cons_of_not_low c (by simpa using notLow),
          Text.scalars_cons_of_not_low c notLowWritten]
        exact interspersed.keep _

end Interspersed

theorem IsUnicodeEscape.not_isHighSurrogate {escape : Text} (valid : IsUnicodeEscape escape) :
    ∀ c ∈ escape, c.isHighSurrogate = false := by
  obtain ⟨letter, digits, rfl, named, -, hexadecimal⟩ := valid.exists_digits
  simp only [List.forall_mem_cons]
  refine ⟨by decide, ?_, ?_⟩
  · rcases named with rfl | rfl <;> decide
  · exact fun c member => CodePoint.not_isHighSurrogate_of_isHexDigit (hexadecimal c member)

theorem EscapesReserved.not_isHighSurrogate {inSpan : Bool} {c d : CodePoint}
    (escapes : EscapesReserved inSpan c d) : ∀ e ∈ [c, d], e.isHighSurrogate = false := by
  obtain ⟨first, reserved⟩ := escapes
  have second := CodePoint.not_isHighSurrogate_of_isReserved reserved
  rcases first with rfl | ⟨rfl, -⟩
  · simpa [second] using (by decide : backslash.isHighSurrogate = false)
  · simpa [second] using (by decide : apostrophe.isHighSurrogate = false)

theorem interspersed_writeFrom (inSpan : Bool) (t : Text) :
    Interspersed (Text.scalars t) (Text.scalars (writeFrom 0 inSpan t)) := by
  induction inSpan, t using scan_induction with
  | nil inSpan =>
      have none : Interspersed (Text.scalars []) (Text.scalars []) := .nil
      simpa [writeFrom] using none.pad (closing_eq_apostrophe inSpan)
  | escape inSpan c d rest escapes ih =>
      rw [writeFrom_escape rest escapes]
      exact (ih.append [c, d] escapes.not_isHighSurrogate).pad (closing_eq_apostrophe inSpan)
  | unicode inSpan escape rest valid ih =>
      rw [writeFrom_unicode inSpan rest valid, List.append_assoc]
      exact (ih.append escape valid.not_isHighSurrogate).pad (closing_eq_apostrophe inSpan)
  | plain inSpan c rest plain ih =>
      by_cases isHigh : c.isHighSurrogate = true
      · have free : c.isReserved = false :=
          CodePoint.not_isReserved_of_isSurrogate (by simp [CodePoint.isSurrogate, isHigh])
        rw [writeScalar_free inSpan free] at ih
        rw [writeFrom_free inSpan rest free]
        exact (ih.after_high isHigh).pad (closing_eq_apostrophe inSpan)
      · obtain ⟨padding, apostrophes, written⟩ := exists_padding inSpan c
        rw [writeFrom_plain plain, written, List.append_assoc]
        exact (ih.append [c] (by simpa using isHigh)).pad apostrophes

/-- A literal has the scalars of its text in their order, and between them nothing
but apostrophes. Apart from apostrophes the scalars are the same, and no apostrophe of
the text is lost. -/
theorem scalars_ofText (t : Text) :
    (Text.scalars (ofText t)).filter (· ≠ .single apostrophe) =
        (Text.scalars t).filter (· ≠ .single apostrophe) ∧
      t.count apostrophe ≤ (ofText t).count apostrophe ∧
      (Text.scalars t).Sublist (Text.scalars (ofText t)) := by
  have interspersed : Interspersed (Text.scalars t) (Text.scalars (ofText t)) :=
    interspersed_writeFrom false t
  have kept : t.Sublist (ofText t) := by
    simpa only [Text.flatMap_text_scalars] using interspersed.sublist.flatMap Scalar.text
  exact ⟨interspersed.filter_eq, kept.count_le apostrophe, interspersed.sublist⟩

/-! ## Texts that get no apostrophe -/

/-- A step writes at least what it reads, counting the end of a span from where the span
is opened. -/
theorem closing_length_le_writeScalar (inSpan : Bool) (c : CodePoint) :
    (closing inSpan).length + 1 ≤ (writeScalar inSpan (.single c)).1.length +
      (closing (writeScalar inSpan (.single c)).2).length := by
  rcases writeScalar_cases inSpan c with ⟨_, written⟩ | ⟨_, written⟩ | ⟨_, written⟩ <;>
    rw [written] <;> cases inSpan <;> simp [closing]

theorem two_le_writeScalar {c : CodePoint} (reserved : c.isReserved = true) :
    2 ≤ (writeScalar false (.single c)).1.length := by
  rcases writeScalar_cases false c with ⟨free, _⟩ | ⟨_, written⟩ | ⟨_, written⟩
  · rw [free] at reserved
    cases reserved
  · rw [written]
    rfl
  · rw [written]
    rfl

/-- No step takes a code point away, and an open span still has its end to come. -/
theorem length_le_writeFrom (inSpan : Bool) (t : Text) :
    (closing inSpan).length + t.length ≤ (writeFrom 0 inSpan t).length := by
  induction inSpan, t using scan_induction with
  | nil inSpan => simp [writeFrom]
  | escape inSpan c d rest escapes ih =>
      rw [writeFrom_escape rest escapes]
      simp only [List.length_append, List.length_cons]
      omega
  | unicode inSpan escape rest valid ih =>
      rw [writeFrom_unicode inSpan rest valid]
      simp only [List.length_append]
      omega
  | plain inSpan c rest plain ih =>
      have step := closing_length_le_writeScalar inSpan c
      rw [writeFrom_plain plain]
      simp only [List.length_append, List.length_cons]
      omega

/-- The first apostrophe put in is never made up for, since every later step writes
at least what it reads. -/
theorem settled_of_length_le {t : Text} (short : (writeFrom 0 false t).length ≤ t.length) :
    Settled t := by
  generalize outside : false = inSpan at short
  induction inSpan, t using scan_induction with
  | nil => exact .nil
  | escape inSpan c d rest escapes ih =>
      subst outside
      rw [writeFrom_escape rest escapes] at short
      simp only [List.length_append, List.length_cons] at short
      exact .escape escapes (ih rfl (by omega))
  | unicode inSpan escape rest valid ih =>
      subst outside
      rw [writeFrom_unicode false rest valid] at short
      simp only [List.length_append] at short
      exact .unicode valid (ih rfl (by omega))
  | plain inSpan c rest plain ih =>
      subst outside
      by_cases free : c.isReserved = false
      · rw [writeScalar_free false free] at ih
        rw [writeFrom_free false rest free] at short
        simp only [List.length_append, List.length_cons] at short
        have shortRest : (writeFrom 0 false rest).length ≤ rest.length := by omega
        exact .bare free (ih rfl shortRest)
      · have grown := two_le_writeScalar (c := c) (by simpa using free)
        have later := length_le_writeFrom (writeScalar false (.single c)).2 rest
        rw [writeFrom_plain plain] at short
        simp only [List.length_append, List.length_cons] at short
        omega

theorem ofText_eq_iff_settled {t : Text} : ofText t = t ↔ Settled t := by
  constructor
  · intro same
    exact settled_of_length_le (congrArg List.length same).le
  · exact Settled.ofText_eq

/-- What the writer passes on as it is: an unreserved scalar, a reserved code point
with a backslash or an apostrophe before it, or a Unicode escape. -/
inductive IsToken : Text → Prop where
  | scalar {s : Scalar} : s.WellFormed → s.isReserved = false → IsToken s.text
  | escape {c d} : c = backslash ∨ c = apostrophe → d.isReserved = true → IsToken [c, d]
  | unicode {escape} : IsUnicodeEscape escape → IsToken escape

/-- The text is a concatenation of tokens. -/
def Tokenized (t : Text) : Prop :=
  ∃ tokens : List Text, (∀ token ∈ tokens, IsToken token) ∧ tokens.flatten = t

theorem IsToken.settled_append {token t : Text} (valid : IsToken token) (settled : Settled t) :
    Settled (token ++ t) := by
  cases valid with
  | @scalar s wellFormed free =>
      cases s with
      | single c => exact .bare free settled
      | pair high low =>
          obtain ⟨isHigh, isLow⟩ := wellFormed
          have freeHigh : high.isReserved = false :=
            CodePoint.not_isReserved_of_isSurrogate (by simp [CodePoint.isSurrogate, isHigh])
          have freeLow : low.isReserved = false :=
            CodePoint.not_isReserved_of_isSurrogate (by simp [CodePoint.isSurrogate, isLow])
          exact .bare freeHigh (.bare freeLow settled)
  | escape first reserved =>
      refine .escape ⟨?_, reserved⟩ settled
      exact first.imp_right fun quotes => ⟨quotes, rfl⟩
  | unicode valid => exact .unicode valid settled

theorem Tokenized.cons {token t : Text} (valid : IsToken token) (tokenized : Tokenized t) :
    Tokenized (token ++ t) := by
  obtain ⟨tokens, all, rfl⟩ := tokenized
  exact ⟨token :: tokens, List.forall_mem_cons.mpr ⟨valid, all⟩, rfl⟩

theorem settled_iff_tokenized {t : Text} : Settled t ↔ Tokenized t := by
  constructor
  · intro settled
    induction settled with
    | nil => exact ⟨[], by simp, rfl⟩
    | @bare c t free _ ih => exact ih.cons (.scalar (s := .single c) trivial free)
    | @escape c d t escapes _ ih =>
        have first : c = backslash ∨ c = apostrophe := escapes.1.imp_right And.left
        exact ih.cons (.escape first escapes.2)
    | unicode valid _ ih => exact ih.cons (.unicode valid)
  · intro tokenized
    obtain ⟨tokens, all, rfl⟩ := tokenized
    induction tokens with
    | nil => exact .nil
    | cons token tokens ih =>
        exact (all token (by simp)).settled_append (ih fun later member => all later (.tail _ member))

/-- A text is its own literal exactly if it is a concatenation of tokens. The literal
of any other text is longer than the text. -/
theorem ofText_eq_self_iff_tokenized (t : Text) :
    (ofText t = t ↔ Tokenized t) ∧ (¬Tokenized t → t.length < (ofText t).length) := by
  rw [← settled_iff_tokenized]
  refine ⟨ofText_eq_iff_settled, fun unsettled => ?_⟩
  by_contra short
  exact unsettled (settled_of_length_le (Nat.le_of_not_lt short))

/-- Of two hyphens after an apostrophe only the first is escaped. -/
theorem ofText_eq_self_iff_tokenized_half_escaped :
    ¬Tokenized "'--" ∧ ofText "'--" = ("'-'-'" : Text) ∧
      ("'--" : Text).length < (ofText "'--").length := by
  have laws := ofText_eq_self_iff_tokenized "'--"
  have changed : ofText "'--" ≠ ("'--" : Text) := by decide
  have untokenized : ¬Tokenized "'--" := fun tokenized => changed (laws.1.mpr tokenized)
  exact ⟨untokenized, by decide, laws.2 untokenized⟩

end Literal

end Tailoring

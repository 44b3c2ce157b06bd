import Tailoring.Proofs.Literal.Reader

/-!
# Reading back a written literal

An apostrophe in a text is a problem for its literal only if the writer takes it
for an escape of the reserved code point after it. It does not if the apostrophe
stands alone, or if the run of reserved code points around it starts with
another one and has no backslash: then a span is open when the apostrophe comes.
-/

set_option autoImplicit false

namespace Tailoring.Literal

/-- No reserved code point stands on either side. -/
def Isolated (before after : Text) : Prop :=
  before.getLast?.any CodePoint.isReserved = false ∧ after.head?.any CodePoint.isReserved = false

/-- The longest run of reserved code points around an apostrophe. -/
def reservedRun (before after : Text) : Text :=
  before.rtakeWhile CodePoint.isReserved ++ apostrophe :: after.takeWhile CodePoint.isReserved

/-- The run around the apostrophe starts with another code point and has no
backslash. -/
def InOpenedRun (before after : Text) : Prop :=
  (reservedRun before after).head? ≠ some apostrophe ∧ backslash ∉ reservedRun before after

/-- Every apostrophe of the text stands alone or in a run that it does not start
and that has no backslash. -/
def ApostrophesClear (t : Text) : Prop :=
  ∀ i < t.length, t[i]? = some apostrophe →
    Isolated (t.take i) (t.drop (i + 1)) ∨ InOpenedRun (t.take i) (t.drop (i + 1))

instance (before after : Text) : Decidable (Isolated before after) :=
  inferInstanceAs (Decidable (_ ∧ _))

instance (before after : Text) : Decidable (InOpenedRun before after) :=
  inferInstanceAs (Decidable (_ ∧ _))

instance (t : Text) : Decidable (ApostrophesClear t) :=
  inferInstanceAs (Decidable (∀ i < t.length, _ → _))

theorem ApostrophesClear.between {before after : Text}
    (clear : ApostrophesClear (before ++ apostrophe :: after)) :
    Isolated before after ∨ InOpenedRun before after := by
  have placed := clear before.length (by simp) (by simp)
  rwa [List.take_left, ← List.drop_drop, List.drop_left, List.drop_one, List.tail_cons] at placed

theorem apostrophesClear_of_not_mem {t : Text} (free : apostrophe ∉ t) : ApostrophesClear t :=
  fun _ _ found => absurd (List.mem_of_getElem? found) free

/-- What the writer keeps up: if the text ends in a run of reserved code points
that another one than an apostrophe starts and that has no backslash, a span is
open. -/
def SpanOpened (before : Text) (inSpan : Bool) : Prop :=
  ∀ first run, before.rtakeWhile CodePoint.isReserved = first :: run → first ≠ apostrophe →
    backslash ∉ first :: run → inSpan = true

theorem spanOpened_of_free {before : Text} {c : CodePoint} (inSpan : Bool)
    (free : c.isReserved = false) : SpanOpened (before ++ [c]) inSpan := by
  intro first run split
  simp [free] at split

theorem spanOpened_of_unicode {before escape : Text} (inSpan : Bool)
    (valid : IsUnicodeEscape escape) : SpanOpened (before ++ escape) inSpan := by
  obtain ⟨leading, digit, rfl, hexadecimal⟩ := valid.exists_last_digit
  rw [← List.append_assoc]
  exact spanOpened_of_free inSpan (CodePoint.not_isReserved_of_isHexDigit hexadecimal)

theorem spanOpened_of_backslash {before : Text} {d : CodePoint} (inSpan : Bool)
    (reserved : d.isReserved = true) : SpanOpened (before ++ [backslash, d]) inSpan := by
  intro first run split _ clean
  rw [show before ++ [backslash, d] = before ++ [backslash] ++ [d] by simp,
    List.rtakeWhile_concat, if_pos reserved, List.rtakeWhile_concat,
    if_pos CodePoint.isReserved_backslash] at split
  exact absurd (split ▸ by simp) clean

theorem SpanOpened.apostrophe {before : Text} {inSpan : Bool} (opened : SpanOpened before inSpan) :
    SpanOpened (before ++ [Tailoring.apostrophe]) inSpan := by
  intro first run split other clean
  rw [List.rtakeWhile_concat, if_pos CodePoint.isReserved_apostrophe] at split
  cases earlier : before.rtakeWhile CodePoint.isReserved with
  | nil =>
      rw [earlier] at split
      exact absurd (List.cons.inj split).1.symm other
  | cons start run' =>
      rw [earlier, List.cons_append, List.cons.injEq] at split
      obtain ⟨rfl, rfl⟩ := split
      exact opened start run' earlier other fun member => clean (by
        rw [← List.cons_append]
        exact List.mem_append_left _ member)

theorem SpanOpened.plain {before : Text} {inSpan : Bool} (opened : SpanOpened before inSpan)
    (c : CodePoint) : SpanOpened (before ++ [c]) (writeScalar inSpan (.single c)).2 := by
  by_cases free : c.isReserved = false
  · exact spanOpened_of_free _ free
  have reserved : c.isReserved = true := by simpa using free
  by_cases doubled : c = Tailoring.apostrophe
  · subst doubled
    rw [writeScalar_apostrophe]
    exact opened.apostrophe
  · have open' : (writeScalar inSpan (.single c)).2 = true := by
      cases inSpan with
      | true => rw [writeScalar_inside reserved doubled]
      | false => rw [writeScalar_outside reserved doubled]
    exact fun _ _ _ _ _ => open'

/-- Outside a span an apostrophe that is clear has no reserved code point after
it. -/
theorem not_isReserved_after {before rest : Text} {d : CodePoint}
    (clear : ApostrophesClear (before ++ apostrophe :: d :: rest))
    (opened : SpanOpened before false) : d.isReserved = false := by
  rcases clear.between with isolated | ⟨started, clean⟩
  · simpa using isolated.2
  · unfold reservedRun at started clean
    cases earlier : before.rtakeWhile CodePoint.isReserved with
    | nil => simp [earlier] at started
    | cons first run =>
        rw [earlier] at started clean
        have inSpan := opened first run earlier (by simpa using started)
          fun member => clean (List.mem_append_left _ member)
        cases inSpan

/-- The induction is along the writer's steps; what has been passed is kept, so
that an apostrophe is judged by the whole text. -/
theorem ApostrophesClear.unmistaken {inSpan : Bool} {t : Text} :
    ∀ before, ApostrophesClear (before ++ t) → SpanOpened before inSpan →
      Unmistaken inSpan t := by
  induction inSpan, t using scan_induction with
  | nil inSpan => exact fun _ _ _ => .nil
  | escape inSpan c d rest escapes ih =>
      intro before clear opened
      obtain ⟨rfl | ⟨rfl, rfl⟩, reserved⟩ := escapes
      · exact .escape reserved
          (ih (before ++ [backslash, d]) (by simpa using clear)
            (spanOpened_of_backslash false reserved))
      · rw [not_isReserved_after clear opened] at reserved
        cases reserved
  | unicode inSpan escape rest valid ih =>
      intro before clear opened
      exact .unicode valid
        (ih (before ++ escape) (by simpa using clear) (spanOpened_of_unicode false valid))
  | plain inSpan c rest plain ih =>
      intro before clear opened
      exact .plain plain (ih (before ++ [c]) (by simpa using clear) (opened.plain c))

theorem unmistaken_of_clear {t : Text} (clear : ApostrophesClear t) : Unmistaken false t :=
  clear.unmistaken [] fun _ _ split => by cases split

/-- ICU reads the literal of a text as what its author means, if every
apostrophe of the text is clear. -/
theorem read_ofText_eq_meaning {t : Text} (clear : ApostrophesClear t) :
    read? (ofText t) = some (meaning t) :=
  (unmistaken_of_clear clear).readFrom_writeFrom

/-- An apostrophe inside a run, one alone, an escape, a Unicode escape and a
backslash that escapes nothing. -/
theorem read_ofText_eq_meaning_mixed :
    ApostrophesClear "-'-a\\-b's\\u0041\\q" ∧
      ofText "-'-a\\-b's\\u0041\\q" = ("'-''-'a\\-b''s\\u0041'\\'q" : Text) ∧
      read? (ofText "-'-a\\-b's\\u0041\\q") = some (meaning "-'-a\\-b's\\u0041\\q") :=
  ⟨by decide, by decide, read_ofText_eq_meaning (by decide)⟩

end Tailoring.Literal

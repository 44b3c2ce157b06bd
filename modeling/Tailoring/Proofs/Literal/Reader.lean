import Mathlib.Data.List.DropRight
import Tailoring.Proofs.Literal.Scan

/-!
# How a literal is read

ICU's reading of a literal, and what the author of a text means by it. Both give
pieces: a character, or a Unicode escape that is passed on as it stands. A
literal written for a text is read as what the author means, as long as the
writer takes no apostrophe of the text for an escape.
-/

set_option autoImplicit false

namespace Tailoring.Literal

/-- What a literal is made of. -/
inductive Piece where
  | character (c : CodePoint)
  | escape (escape : Text)
  deriving DecidableEq

/-- Reads a literal, given how many code points are still to be passed over and
whether a quote is open. Two apostrophes are one, a single one opens or closes a
quote, and inside a quote nothing else is special. Outside, a backslash starts a
Unicode escape or takes the next code point as it is, and a reserved code point
is an error, as is the end of the text inside a quote. -/
def readFrom (passing : Nat) (inQuote : Bool) : Text → Option (List Piece)
  | [] => if inQuote then none else some []
  | c :: rest =>
      match passing with
      | remaining + 1 => readFrom remaining inQuote rest
      | 0 =>
          if c = apostrophe then
            if rest.head? = some apostrophe then
              (readFrom 1 inQuote rest).map (.character apostrophe :: ·)
            else readFrom 0 (!inQuote) rest
          else if inQuote then (readFrom 0 true rest).map (.character c :: ·)
          else if c = backslash then
            match unicodeEscapeLength (c :: rest), rest.head? with
            | remaining + 1, _ =>
                (readFrom remaining false rest).map
                  (.escape ((c :: rest).take (remaining + 1)) :: ·)
            | 0, some d => (readFrom 1 false rest).map (.character d :: ·)
            | 0, none => none
          else if c.isReserved then none
          else (readFrom 0 false rest).map (.character c :: ·)

/-- The pieces of a literal, if it is one. -/
def read? (literal : Text) : Option (List Piece) :=
  readFrom 0 false literal

/-- What the author of a text means, given how many code points are still to be
passed over: a backslash makes the reserved code point after it a plain one,
Unicode escapes stand for themselves, and so does everything else. -/
def meaningFrom (passing : Nat) : Text → List Piece
  | [] => []
  | c :: rest =>
      match passing with
      | remaining + 1 => meaningFrom remaining rest
      | 0 =>
          if c = backslash ∧ rest.head?.any CodePoint.isReserved then
            (rest.take 1).map .character ++ meaningFrom 1 rest
          else
            match unicodeEscapeLength (c :: rest) with
            | remaining + 1 =>
                .escape ((c :: rest).take (remaining + 1)) :: meaningFrom remaining rest
            | 0 => .character c :: meaningFrom 0 rest

/-- What the author of a text means. -/
def meaning (t : Text) : List Piece :=
  meaningFrom 0 t

/-! ## Reading step by step -/

theorem readFrom_passing (count : Nat) (inQuote : Bool) (t : Text) :
    readFrom count inQuote t = readFrom 0 inQuote (t.drop count) := by
  induction t generalizing count with
  | nil => cases count <;> rfl
  | cons c rest ih =>
      cases count with
      | zero => rfl
      | succ count => simpa only [readFrom, List.drop_succ_cons] using ih count

theorem readFrom_doubled (inQuote : Bool) (t : Text) :
    readFrom 0 inQuote (apostrophe :: apostrophe :: t) =
      (readFrom 0 inQuote t).map (.character apostrophe :: ·) := by
  rw [readFrom, if_pos rfl, List.head?_cons, if_pos rfl, readFrom_passing]
  rfl

theorem readFrom_quote {t : Text} (inQuote : Bool) (single : t.head? ≠ some apostrophe) :
    readFrom 0 inQuote (apostrophe :: t) = readFrom 0 (!inQuote) t := by
  rw [readFrom, if_pos rfl, if_neg single]

theorem readFrom_quoted {c : CodePoint} (t : Text) (other : c ≠ apostrophe) :
    readFrom 0 true (c :: t) = (readFrom 0 true t).map (.character c :: ·) := by
  rw [readFrom, if_neg other, if_pos rfl]

theorem readFrom_bare {c : CodePoint} (t : Text) (free : c.isReserved = false) :
    readFrom 0 false (c :: t) = (readFrom 0 false t).map (.character c :: ·) := by
  have notApostrophe : c ≠ apostrophe := by
    rintro rfl
    exact absurd CodePoint.isReserved_apostrophe (by simp [free])
  have notBackslash : c ≠ backslash := by
    rintro rfl
    exact absurd CodePoint.isReserved_backslash (by simp [free])
  simp [readFrom, notApostrophe, notBackslash, free]

theorem readFrom_reserved {c : CodePoint} (t : Text) (reserved : c.isReserved = true)
    (notApostrophe : c ≠ apostrophe) (notBackslash : c ≠ backslash) :
    readFrom 0 false (c :: t) = none := by
  simp [readFrom, notApostrophe, notBackslash, reserved]

theorem readFrom_backslash {d : CodePoint} {t : Text}
    (uncounted : unicodeEscapeLength (backslash :: d :: t) = 0) :
    readFrom 0 false (backslash :: d :: t) =
      (readFrom 0 false t).map (.character d :: ·) := by
  have notApostrophe : backslash ≠ apostrophe := by decide
  simp only [readFrom, notApostrophe, if_false, Bool.false_eq_true, if_true, uncounted,
    List.head?_cons]

theorem readFrom_unicode {escape : Text} (t : Text) (valid : IsUnicodeEscape escape) :
    readFrom 0 false (escape ++ t) = (readFrom 0 false t).map (.escape escape :: ·) := by
  have counted := valid.length_append t
  obtain ⟨digits, rfl⟩ : ∃ digits, escape = backslash :: digits := by
    cases valid <;> exact ⟨_, rfl⟩
  have notApostrophe : backslash ≠ apostrophe := by decide
  simp only [List.cons_append, List.length_cons] at counted
  simp only [List.cons_append, readFrom, notApostrophe, if_false, Bool.false_eq_true, if_true,
    counted]
  rw [readFrom_passing]
  simp

/-- The apostrophe that the writer closes a span with closes the quote. -/
theorem readFrom_closing {t : Text} (inSpan : Bool) (single : t.head? ≠ some apostrophe) :
    readFrom 0 inSpan (closing inSpan ++ t) = readFrom 0 false t := by
  cases inSpan with
  | false => rfl
  | true => exact readFrom_quote true single

/-- The texts that are literals, given whether a quote is open: how each is
read, step by step. -/
inductive Readable : Bool → Text → Prop where
  | nil : Readable false []
  | doubled {inQuote t} :
      Readable inQuote t → Readable inQuote (apostrophe :: apostrophe :: t)
  | quote {inQuote t} :
      t.head? ≠ some apostrophe → Readable (!inQuote) t → Readable inQuote (apostrophe :: t)
  | quoted {c t} : c ≠ apostrophe → Readable true t → Readable true (c :: t)
  | bare {c t} : c.isReserved = false → Readable false t → Readable false (c :: t)
  | backslash {d t} :
      unicodeEscapeLength (Tailoring.backslash :: d :: t) = 0 → Readable false t →
      Readable false (Tailoring.backslash :: d :: t)
  | unicode {escape t} :
      IsUnicodeEscape escape → Readable false t → Readable false (escape ++ t)

theorem readable_of_isSome {inQuote : Bool} {t : Text}
    (success : (readFrom 0 inQuote t).isSome = true) : Readable inQuote t := by
  match t with
  | [] =>
      cases inQuote with
      | true => cases success
      | false => exact .nil
  | c :: rest =>
      by_cases quote : c = apostrophe
      · subst quote
        by_cases doubled : rest.head? = some apostrophe
        · obtain ⟨after, rfl⟩ := List.head?_eq_some_iff.mp doubled
          rw [readFrom_doubled, Option.isSome_map] at success
          exact .doubled (readable_of_isSome success)
        · rw [readFrom_quote inQuote doubled] at success
          exact .quote doubled (readable_of_isSome success)
      cases inQuote with
      | true =>
          rw [readFrom_quoted rest quote, Option.isSome_map] at success
          exact .quoted quote (readable_of_isSome success)
      | false =>
          by_cases free : c.isReserved = false
          · rw [readFrom_bare rest free, Option.isSome_map] at success
            exact .bare free (readable_of_isSome success)
          by_cases escapes : c = Tailoring.backslash
          · subst escapes
            by_cases counted : unicodeEscapeLength (Tailoring.backslash :: rest) = 0
            · cases rest with
              | nil => cases success
              | cons d after =>
                  rw [readFrom_backslash counted, Option.isSome_map] at success
                  exact .backslash counted (readable_of_isSome success)
            · obtain ⟨escape, after, split, valid⟩ := exists_of_unicodeEscapeLength counted
              have shorter := valid.length_lt split
              rw [split, readFrom_unicode after valid, Option.isSome_map] at success
              rw [split]
              exact .unicode valid (readable_of_isSome success)
          · rw [readFrom_reserved rest (by simpa using free) quote escapes] at success
            cases success
termination_by t.length
decreasing_by
  all_goals subst_vars
  all_goals simp only [List.length_cons] at *
  all_goals omega

/-! ## Meaning step by step -/

theorem meaningFrom_passing (count : Nat) (t : Text) :
    meaningFrom count t = meaningFrom 0 (t.drop count) := by
  induction t generalizing count with
  | nil => cases count <;> rfl
  | cons c rest ih =>
      cases count with
      | zero => rfl
      | succ count => simpa only [meaningFrom, List.drop_succ_cons] using ih count

theorem meaningFrom_backslash {d : CodePoint} (t : Text) (reserved : d.isReserved = true) :
    meaningFrom 0 (backslash :: d :: t) = .character d :: meaningFrom 0 t := by
  simp [meaningFrom, reserved]

theorem meaningFrom_unicode {escape : Text} (t : Text) (valid : IsUnicodeEscape escape) :
    meaningFrom 0 (escape ++ t) = .escape escape :: meaningFrom 0 t := by
  have counted := valid.length_append t
  obtain ⟨d, digits, rfl, free⟩ :
      ∃ d digits, escape = backslash :: d :: digits ∧ d.isReserved = false := by
    cases valid <;> exact ⟨_, _, rfl, by decide⟩
  simp only [List.cons_append, List.length_cons] at counted
  simp only [List.cons_append, meaningFrom, counted, List.head?_cons, Option.any_some, free,
    Bool.false_eq_true, and_false, if_false]
  rw [meaningFrom_passing]
  simp

/-- What the writer writes as one code point means that code point. -/
theorem meaningFrom_plain {inSpan : Bool} {c : CodePoint} {t : Text}
    (plain : escapedLength inSpan (c :: t) = 0) :
    meaningFrom 0 (c :: t) = .character c :: meaningFrom 0 t := by
  cases t with
  | nil =>
      have uncounted : unicodeEscapeLength [c] = 0 := by
        simp [unicodeEscapeLength, startsUnicodeEscape]
      simp [meaningFrom, uncounted]
  | cons d rest =>
      have unescaped : ¬EscapesReserved inSpan c d := by
        intro escapes
        rw [escapedLength_of_escapesReserved escapes] at plain
        cases plain
      rw [escapedLength_of_not_escapesReserved unescaped] at plain
      have notBackslash : ¬(c = backslash ∧ d.isReserved = true) := by
        rintro ⟨same, reserved⟩
        exact unescaped ⟨.inl same, reserved⟩
      simp only [meaningFrom, plain, List.head?_cons, Option.any_some, notBackslash, if_false]

/-! ## Reading what was written -/

/-- Along the text the writer takes no apostrophe for an escape. -/
inductive Unmistaken : Bool → Text → Prop where
  | nil {inSpan} : Unmistaken inSpan []
  | escape {inSpan d rest} :
      d.isReserved = true → Unmistaken false rest → Unmistaken inSpan (backslash :: d :: rest)
  | unicode {inSpan escape rest} :
      IsUnicodeEscape escape → Unmistaken false rest → Unmistaken inSpan (escape ++ rest)
  | plain {inSpan c rest} :
      escapedLength inSpan (c :: rest) = 0 →
      Unmistaken (writeScalar inSpan (.single c)).2 rest → Unmistaken inSpan (c :: rest)

/-- The quote that ICU sees open is at every step the span that the writer has
open. -/
theorem Unmistaken.readFrom_writeFrom {inSpan : Bool} {t : Text}
    (unmistaken : Unmistaken inSpan t) :
    readFrom 0 inSpan (writeFrom 0 inSpan t) = some (meaningFrom 0 t) := by
  induction unmistaken with
  | @nil inSpan => cases inSpan <;> rfl
  | @escape inSpan d rest reserved _ ih =>
      rw [writeFrom_escape rest ⟨.inl rfl, reserved⟩, meaningFrom_backslash rest reserved,
        readFrom_closing inSpan (by simp [backslash, apostrophe]),
        readFrom_backslash (unicodeEscapeLength_of_isReserved reserved), ih]
      rfl
  | @unicode inSpan escape rest valid _ ih =>
      have single : (escape ++ writeFrom 0 false rest).head? ≠ some apostrophe := by
        cases valid <;> simp [backslash, apostrophe]
      rw [writeFrom_unicode inSpan rest valid, meaningFrom_unicode rest valid,
        List.append_assoc, readFrom_closing inSpan single, readFrom_unicode _ valid, ih]
      rfl
  | @plain inSpan c rest plain _ ih =>
      rw [writeFrom_plain plain, meaningFrom_plain plain]
      by_cases free : c.isReserved = false
      · have single : ([c] ++ writeFrom 0 false rest).head? ≠ some apostrophe := by
          rintro same
          cases same
          exact absurd CodePoint.isReserved_apostrophe (by simp [free])
        rw [writeScalar_free inSpan free] at ih ⊢
        rw [List.append_assoc, readFrom_closing inSpan single, List.singleton_append,
          readFrom_bare _ free, ih]
        rfl
      have reserved : c.isReserved = true := by simpa using free
      by_cases doubled : c = apostrophe
      · subst doubled
        rw [writeScalar_apostrophe] at ih ⊢
        rw [List.cons_append, List.singleton_append, readFrom_doubled, ih]
        rfl
      · have quoted : readFrom 0 true (c :: writeFrom 0 true rest) =
            (readFrom 0 true (writeFrom 0 true rest)).map (.character c :: ·) :=
          readFrom_quoted _ doubled
        cases inSpan with
        | true =>
            rw [writeScalar_inside reserved doubled] at ih ⊢
            rw [List.singleton_append, quoted, ih]
            rfl
        | false =>
            rw [writeScalar_outside reserved doubled] at ih ⊢
            rw [List.cons_append, List.singleton_append,
              readFrom_quote false (by simpa using doubled), Bool.not_false, quoted, ih]
            rfl

end Tailoring.Literal

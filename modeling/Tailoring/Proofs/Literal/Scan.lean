import Mathlib.Data.List.Basic
import Tailoring.Literal

/-!
# How a literal is written

The writer of literals moves along its text in steps: it copies an escape of two
code points, copies a Unicode escape, or writes one code point. This module says
what each step writes, and gives the induction along the steps.
-/

set_option autoImplicit false

namespace Tailoring

namespace CodePoint

theorem isReserved_apostrophe : apostrophe.isReserved = true := by decide

theorem isReserved_backslash : backslash.isReserved = true := by decide

theorem ranges_of_isHexDigit {c : CodePoint} (digit : c.isHexDigit = true) :
    0x30 ≤ c.val ∧ c.val ≤ 0x39 ∨ 0x41 ≤ c.val ∧ c.val ≤ 0x46 ∨
      0x61 ≤ c.val ∧ c.val ≤ 0x66 := by
  unfold isHexDigit hexValue? at digit
  split at digit
  · exact .inl ‹_›
  split at digit
  · exact .inr (.inl ‹_›)
  split at digit
  · exact .inr (.inr ‹_›)
  · cases digit

theorem not_isReserved_of_isHexDigit {c : CodePoint} (digit : c.isHexDigit = true) :
    c.isReserved = false := by
  have ranges := ranges_of_isHexDigit digit
  simp only [isReserved, isAlphanumeric, isLetter, isDigit, isBlank, Bool.or_eq_false_iff,
    Bool.and_eq_false_iff, Bool.not_eq_false', Bool.or_eq_true, decide_eq_true_eq,
    decide_eq_false_iff_not]
  omega

theorem not_isBlank_of_free {c : CodePoint} (free : c.isReserved = false) : c.isBlank = false := by
  simp only [isReserved, Bool.or_eq_false_iff] at free
  exact free.2

end CodePoint

namespace Literal

/-! ## One code point -/

theorem writeScalar_apostrophe (inSpan : Bool) :
    writeScalar inSpan (.single apostrophe) = ([apostrophe, apostrophe], inSpan) := by
  simp [writeScalar, Scalar.isReserved, CodePoint.isReserved_apostrophe]

theorem writeScalar_free {c : CodePoint} (inSpan : Bool) (free : c.isReserved = false) :
    writeScalar inSpan (.single c) = (closing inSpan ++ [c], false) := by
  simp [writeScalar, Scalar.isReserved, free, Scalar.text]

theorem writeScalar_inside {c : CodePoint} (reserved : c.isReserved = true)
    (other : c ≠ apostrophe) : writeScalar true (.single c) = ([c], true) := by
  simp [writeScalar, Scalar.isReserved, reserved, other, Scalar.text]

theorem writeScalar_outside {c : CodePoint} (reserved : c.isReserved = true)
    (other : c ≠ apostrophe) :
    writeScalar false (.single c) = ([apostrophe, c], true) := by
  simp [writeScalar, Scalar.isReserved, reserved, other, Scalar.text]

/-- What writing one code point can do: it closes a span before an unreserved one,
doubles an apostrophe, or goes on with a span, which it opens first if there is none. -/
theorem writeScalar_cases (inSpan : Bool) (c : CodePoint) :
    c.isReserved = false ∧ writeScalar inSpan (.single c) = (closing inSpan ++ [c], false) ∨
      c = apostrophe ∧ writeScalar inSpan (.single c) = ([apostrophe] ++ [c], inSpan) ∨
      (c.isReserved = true ∧ c ≠ apostrophe) ∧
        writeScalar inSpan (.single c) = (closing (!inSpan) ++ [c], true) := by
  by_cases free : c.isReserved = false
  · exact .inl ⟨free, writeScalar_free inSpan free⟩
  have reserved : c.isReserved = true := by simpa using free
  by_cases doubled : c = apostrophe
  · subst doubled
    exact .inr (.inl ⟨rfl, writeScalar_apostrophe inSpan⟩)
  · refine .inr (.inr ⟨⟨reserved, doubled⟩, ?_⟩)
    cases inSpan with
    | true => exact writeScalar_inside reserved doubled
    | false => exact writeScalar_outside reserved doubled

theorem closing_eq_apostrophe (inSpan : Bool) : ∀ c ∈ closing inSpan, c = apostrophe := by
  cases inSpan <;> simp [closing]

theorem exists_padding (inSpan : Bool) (c : CodePoint) :
    ∃ padding, (∀ d ∈ padding, d = apostrophe) ∧
      (writeScalar inSpan (.single c)).1 = padding ++ [c] := by
  rcases writeScalar_cases inSpan c with ⟨_, written⟩ | ⟨_, written⟩ | ⟨_, written⟩ <;>
    rw [written]
  · exact ⟨_, closing_eq_apostrophe inSpan, rfl⟩
  · exact ⟨_, by simp, rfl⟩
  · exact ⟨_, closing_eq_apostrophe (!inSpan), rfl⟩

theorem not_isBlank_of_closed {inSpan : Bool} {c : CodePoint}
    (closed : (writeScalar inSpan (.single c)).2 = false) : c.isBlank = false := by
  rcases writeScalar_cases inSpan c with ⟨free, _⟩ | ⟨rfl, _⟩ | ⟨_, written⟩
  · exact CodePoint.not_isBlank_of_free free
  · decide
  · rw [written] at closed
    cases closed

/-! ## Unicode escapes -/

/-- A backslash, the letter and as many hexadecimal digits as the letter asks
for. -/
inductive IsUnicodeEscape : Text → Prop where
  | long {digits : Text} : digits.length = 8 → (∀ c ∈ digits, c.isHexDigit = true) →
      IsUnicodeEscape (backslash :: ('U' : CodePoint) :: digits)
  | short {digits : Text} : digits.length = 4 → (∀ c ∈ digits, c.isHexDigit = true) →
      IsUnicodeEscape (backslash :: ('u' : CodePoint) :: digits)

/-- The length of the Unicode escape at the start of a text, or zero. -/
def unicodeEscapeLength (t : Text) : Nat :=
  if startsUnicodeEscape 'U' 8 t then 10
  else if startsUnicodeEscape 'u' 4 t then 6
  else 0

theorem startsUnicodeEscape_iff {letter : CodePoint} {width : Nat} {t : Text} :
    startsUnicodeEscape letter width t = true ↔
      ∃ digits rest, t = backslash :: letter :: (digits ++ rest) ∧ digits.length = width ∧
        ∀ c ∈ digits, c.isHexDigit = true := by
  constructor
  · intro starts
    match t with
    | [] => cases starts
    | [_] => cases starts
    | b :: l :: rest =>
        simp only [startsUnicodeEscape, Bool.and_eq_true, beq_iff_eq, decide_eq_true_eq,
          List.all_eq_true] at starts
        obtain ⟨⟨⟨rfl, rfl⟩, long⟩, digits⟩ := starts
        exact ⟨rest.take width, rest.drop width, by rw [List.take_append_drop],
          by simp [long], digits⟩
  · rintro ⟨digits, rest, rfl, rfl, hexadecimal⟩
    simpa [startsUnicodeEscape] using hexadecimal

theorem IsUnicodeEscape.length_append {escape : Text} (valid : IsUnicodeEscape escape)
    (rest : Text) : unicodeEscapeLength (escape ++ rest) = escape.length := by
  cases valid with
  | @long digits width hexadecimal =>
      have starts : startsUnicodeEscape 'U' 8
          (backslash :: ('U' : CodePoint) :: (digits ++ rest)) = true :=
        startsUnicodeEscape_iff.mpr ⟨digits, rest, rfl, width, hexadecimal⟩
      simp [unicodeEscapeLength, starts, width]
  | @short digits width hexadecimal =>
      have starts : startsUnicodeEscape 'u' 4
          (backslash :: ('u' : CodePoint) :: (digits ++ rest)) = true :=
        startsUnicodeEscape_iff.mpr ⟨digits, rest, rfl, width, hexadecimal⟩
      have otherLetter : startsUnicodeEscape 'U' 8
          (backslash :: ('u' : CodePoint) :: (digits ++ rest)) = false := by
        have different : (('u' : CodePoint) == ('U' : CodePoint)) = false := by decide
        simp [startsUnicodeEscape, different]
      simp [unicodeEscapeLength, starts, otherLetter, width]

/-- What is counted as a Unicode escape is one. -/
theorem exists_of_unicodeEscapeLength {t : Text} (present : unicodeEscapeLength t ≠ 0) :
    ∃ escape rest, t = escape ++ rest ∧ IsUnicodeEscape escape := by
  unfold unicodeEscapeLength at present
  split at present
  · next starts =>
      obtain ⟨digits, rest, rfl, width, hexadecimal⟩ := startsUnicodeEscape_iff.mp starts
      exact ⟨_, rest, rfl, .long width hexadecimal⟩
  split at present
  · next starts =>
      obtain ⟨digits, rest, rfl, width, hexadecimal⟩ := startsUnicodeEscape_iff.mp starts
      exact ⟨_, rest, rfl, .short width hexadecimal⟩
  · exact absurd rfl present

theorem unicodeEscapeLength_of_ne {c : CodePoint} {rest : Text} (other : c ≠ backslash) :
    unicodeEscapeLength (c :: rest) = 0 := by
  by_contra present
  obtain ⟨escape, after, split, valid⟩ := exists_of_unicodeEscapeLength present
  cases valid <;> exact other (List.cons.inj split).1

/-- No Unicode escape has a reserved code point after its backslash. -/
theorem unicodeEscapeLength_of_isReserved {c d : CodePoint} {rest : Text}
    (reserved : d.isReserved = true) : unicodeEscapeLength (c :: d :: rest) = 0 := by
  by_contra present
  obtain ⟨escape, after, split, valid⟩ := exists_of_unicodeEscapeLength present
  cases valid with
  | long =>
      obtain ⟨-, rfl, -⟩ : c = backslash ∧ d = ('U' : CodePoint) ∧ _ := by simpa using split
      exact absurd reserved (by decide)
  | short =>
      obtain ⟨-, rfl, -⟩ : c = backslash ∧ d = ('u' : CodePoint) ∧ _ := by simpa using split
      exact absurd reserved (by decide)

theorem IsUnicodeEscape.exists_digits {escape : Text} (valid : IsUnicodeEscape escape) :
    ∃ letter digits, escape = backslash :: letter :: digits ∧
      (letter = ('U' : CodePoint) ∨ letter = ('u' : CodePoint)) ∧ digits ≠ [] ∧
      ∀ c ∈ digits, c.isHexDigit = true := by
  cases valid with
  | @long digits width hexadecimal =>
      exact ⟨_, digits, rfl, .inl rfl, List.ne_nil_of_length_pos (by omega), hexadecimal⟩
  | @short digits width hexadecimal =>
      exact ⟨_, digits, rfl, .inr rfl, List.ne_nil_of_length_pos (by omega), hexadecimal⟩

theorem IsUnicodeEscape.exists_free_tail {escape : Text} (valid : IsUnicodeEscape escape) :
    ∃ tail, escape = backslash :: tail ∧ ∀ c ∈ tail, c.isReserved = false := by
  obtain ⟨letter, digits, rfl, named, -, hexadecimal⟩ := valid.exists_digits
  refine ⟨_, rfl, List.forall_mem_cons.mpr ⟨?_, ?_⟩⟩
  · rcases named with rfl | rfl <;> decide
  · exact fun c member => CodePoint.not_isReserved_of_isHexDigit (hexadecimal c member)

theorem IsUnicodeEscape.exists_last_digit {escape : Text} (valid : IsUnicodeEscape escape) :
    ∃ leading digit, escape = leading ++ [digit] ∧ digit.isHexDigit = true := by
  obtain ⟨letter, digits, rfl, -, present, hexadecimal⟩ := valid.exists_digits
  obtain ⟨leading, digit, rfl⟩ := (List.eq_nil_or_concat digits).resolve_left present
  exact ⟨backslash :: letter :: leading, digit, by simp, hexadecimal digit (by simp)⟩

/-! ## The steps of the writer -/

/-- The start of a text that counts as escaped by two code points. -/
def EscapesReserved (inSpan : Bool) (c d : CodePoint) : Prop :=
  (c = backslash ∨ c = apostrophe ∧ inSpan = false) ∧ d.isReserved = true

theorem escapedLength_of_escapesReserved {inSpan : Bool} {c d : CodePoint} {rest : Text}
    (escapes : EscapesReserved inSpan c d) : escapedLength inSpan (c :: d :: rest) = 2 := by
  obtain ⟨rfl | ⟨rfl, rfl⟩, reserved⟩ := escapes <;> simp [escapedLength, reserved]

theorem escapedLength_of_not_escapesReserved {inSpan : Bool} {c d : CodePoint} {rest : Text}
    (plain : ¬EscapesReserved inSpan c d) :
    escapedLength inSpan (c :: d :: rest) = unicodeEscapeLength (c :: d :: rest) := by
  have unescaped :
      ((c == backslash || c == apostrophe && !inSpan) && d.isReserved) = false := by
    simpa [EscapesReserved] using plain
  simp only [escapedLength, unescaped, Bool.false_eq_true, if_false]
  rfl

theorem escapedLength_singleton (inSpan : Bool) (c : CodePoint) :
    escapedLength inSpan [c] = 0 := rfl

theorem IsUnicodeEscape.escapedLength_append {escape : Text} (valid : IsUnicodeEscape escape)
    (inSpan : Bool) (rest : Text) :
    escapedLength inSpan (escape ++ rest) = escape.length := by
  rw [← valid.length_append rest]
  have letterFree : ('U' : CodePoint).isReserved = false ∧ ('u' : CodePoint).isReserved = false := by
    decide
  cases valid with
  | long => exact escapedLength_of_not_escapesReserved (by simp [EscapesReserved, letterFree])
  | short => exact escapedLength_of_not_escapesReserved (by simp [EscapesReserved, letterFree])

theorem writeFrom_nil : writeFrom 0 false [] = [] := rfl

theorem writeFrom_copying (count : Nat) (inSpan : Bool) (t : Text) :
    writeFrom count inSpan t = t.take count ++ writeFrom 0 inSpan (t.drop count) := by
  induction t generalizing count with
  | nil => cases count <;> rfl
  | cons c rest ih =>
      cases count with
      | zero => rfl
      | succ count =>
          simp only [writeFrom, List.take_succ_cons, List.drop_succ_cons, List.cons_append]
          rw [ih count]

/-- A stretch that counts as escaped is copied, after a span is closed. -/
theorem writeFrom_escaped {inSpan : Bool} {escape rest : Text} (present : escape ≠ [])
    (counted : escapedLength inSpan (escape ++ rest) = escape.length) :
    writeFrom 0 inSpan (escape ++ rest) = closing inSpan ++ escape ++ writeFrom 0 false rest := by
  cases escape with
  | nil => exact absurd rfl present
  | cons c escape =>
      simp only [List.cons_append, List.length_cons] at counted
      simp only [List.cons_append, writeFrom, counted]
      rw [writeFrom_copying]
      simp

theorem writeFrom_escape {inSpan : Bool} {c d : CodePoint} (rest : Text)
    (escapes : EscapesReserved inSpan c d) :
    writeFrom 0 inSpan (c :: d :: rest) =
      closing inSpan ++ c :: d :: writeFrom 0 false rest := by
  have counted : escapedLength inSpan ([c, d] ++ rest) = [c, d].length :=
    escapedLength_of_escapesReserved escapes
  simpa using writeFrom_escaped (by simp) counted

theorem IsUnicodeEscape.ne_nil {escape : Text} (valid : IsUnicodeEscape escape) :
    escape ≠ [] := by
  cases valid <;> simp

theorem IsUnicodeEscape.length_lt {escape t after : Text} (valid : IsUnicodeEscape escape)
    (split : t = escape ++ after) : after.length < t.length := by
  rw [split, List.length_append]
  exact Nat.lt_add_of_pos_left (List.length_pos_of_ne_nil valid.ne_nil)

theorem writeFrom_unicode {escape : Text} (inSpan : Bool) (rest : Text)
    (valid : IsUnicodeEscape escape) :
    writeFrom 0 inSpan (escape ++ rest) =
      closing inSpan ++ escape ++ writeFrom 0 false rest :=
  writeFrom_escaped valid.ne_nil (valid.escapedLength_append inSpan rest)

theorem writeFrom_plain {inSpan : Bool} {c : CodePoint} {rest : Text}
    (plain : escapedLength inSpan (c :: rest) = 0) :
    writeFrom 0 inSpan (c :: rest) =
      (writeScalar inSpan (.single c)).1 ++
        writeFrom 0 (writeScalar inSpan (.single c)).2 rest := by
  simp only [writeFrom, plain]

/-- The induction along the steps of the writer. -/
@[elab_as_elim]
theorem scan_induction {motive : Bool → Text → Prop}
    (nil : ∀ inSpan, motive inSpan [])
    (escape : ∀ inSpan c d rest, EscapesReserved inSpan c d → motive false rest →
      motive inSpan (c :: d :: rest))
    (unicode : ∀ inSpan escape rest, IsUnicodeEscape escape → motive false rest →
      motive inSpan (escape ++ rest))
    (plain : ∀ inSpan c rest, escapedLength inSpan (c :: rest) = 0 →
      motive (writeScalar inSpan (.single c)).2 rest → motive inSpan (c :: rest))
    (inSpan : Bool) (t : Text) : motive inSpan t := by
  match t with
  | [] => exact nil inSpan
  | [c] => exact plain inSpan c [] rfl (nil _)
  | c :: d :: rest =>
      by_cases escapes : EscapesReserved inSpan c d
      · exact escape inSpan c d rest escapes
          (scan_induction nil escape unicode plain false rest)
      · by_cases counted : unicodeEscapeLength (c :: d :: rest) = 0
        · rw [← escapedLength_of_not_escapesReserved escapes] at counted
          exact plain inSpan c (d :: rest) counted
            (scan_induction nil escape unicode plain _ (d :: rest))
        · obtain ⟨copied, after, split, valid⟩ := exists_of_unicodeEscapeLength counted
          have shorter := valid.length_lt split
          rw [split]
          exact unicode inSpan copied after valid
            (scan_induction nil escape unicode plain false after)
termination_by t.length
decreasing_by
  all_goals simp only [List.length_cons] at *
  all_goals omega

/-- Outside a span the writer starts with an apostrophe, or with the first code point
of the text, which is then unreserved or escapes what follows. -/
theorem head?_writeFrom {t : Text} {e : CodePoint}
    (starts : (writeFrom 0 false t).head? = some e) :
    e = apostrophe ∨ t.head? = some e ∧ (e.isReserved = false ∨ e = backslash) := by
  generalize outside : false = inSpan at starts
  induction inSpan, t using scan_induction with
  | nil inSpan =>
      subst outside
      cases starts
  | escape inSpan c d rest escapes =>
      subst outside
      rw [writeFrom_escape rest escapes] at starts
      obtain rfl : c = e := Option.some.inj starts
      rcases escapes.1 with escapes | ⟨quotes, -⟩
      · exact .inr ⟨rfl, .inr escapes⟩
      · exact .inl quotes
  | unicode inSpan escape rest valid =>
      subst outside
      obtain ⟨tail, rfl, -⟩ := valid.exists_free_tail
      rw [writeFrom_unicode false rest valid] at starts
      obtain rfl : backslash = e := Option.some.inj starts
      exact .inr ⟨rfl, .inr rfl⟩
  | plain inSpan c rest plain =>
      subst outside
      rw [writeFrom_plain plain] at starts
      rcases writeScalar_cases false c with ⟨free, written⟩ | ⟨_, written⟩ | ⟨_, written⟩ <;>
        rw [written] at starts
      · obtain rfl : c = e := Option.some.inj starts
        exact .inr ⟨rfl, .inl free⟩
      · exact .inl (Option.some.inj starts).symm
      · exact .inl (Option.some.inj starts).symm

end Literal

end Tailoring

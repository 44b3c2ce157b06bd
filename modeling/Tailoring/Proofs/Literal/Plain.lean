import Tailoring.Proofs.Literal.ReadBack

/-!
# Literals of plain data

Plain data has neither apostrophes nor backslashes. Its literal can be told from
what stands after it: ICU reads a literal up to the first bare reserved code
point, so two literals that are followed by one and together are the same text
are the same literal, and then of the same data.
-/

set_option autoImplicit false

namespace Tailoring.Literal

/-! ## Where reading ends -/

/-- The text is at its end or goes on with a reserved code point that neither
quotes nor escapes. -/
def Stops (t : Text) : Prop :=
  ∀ c ∈ t.head?, c.isReserved = true ∧ c ≠ apostrophe ∧ c ≠ backslash

theorem stops_nil : Stops [] := by
  simp [Stops]

theorem IsUnicodeEscape.not_mem {escape : Text} {c : CodePoint} (valid : IsUnicodeEscape escape)
    (reserved : c.isReserved = true) (other : c ≠ backslash) : c ∉ escape := by
  obtain ⟨tail, rfl, free⟩ := valid.exists_free_tail
  intro member
  rcases List.mem_cons.mp member with same | later
  · exact other same
  · rw [free c later] at reserved
    cases reserved

/-- A reserved code point never completes a Unicode escape. -/
theorem unicodeEscapeLength_append_reserved {c : CodePoint} (t x : Text)
    (reserved : c.isReserved = true) (other : c ≠ backslash) :
    unicodeEscapeLength (t ++ c :: x) = unicodeEscapeLength t := by
  by_cases counted : unicodeEscapeLength (t ++ c :: x) = 0
  · by_cases shorter : unicodeEscapeLength t = 0
    · rw [counted, shorter]
    · obtain ⟨escape, rest, rfl, valid⟩ := exists_of_unicodeEscapeLength shorter
      rw [List.append_assoc, valid.length_append] at counted
      exact absurd (List.eq_nil_of_length_eq_zero counted) valid.ne_nil
  · obtain ⟨escape, rest, split, valid⟩ := exists_of_unicodeEscapeLength counted
    rcases List.append_eq_append_iff.mp split with ⟨more, rfl, after⟩ | ⟨more, rfl, after⟩
    · cases more with
      | nil =>
          rw [List.append_nil] at valid
          rw [valid.length_append, ← valid.length_append [], List.append_nil]
      | cons d more =>
          have same : c = d := (List.cons.inj after).1
          subst same
          exact absurd (by simp) (valid.not_mem reserved other)
    · rw [List.append_assoc, valid.length_append, valid.length_append]

/-- A literal ends at a bare reserved code point: what would go on across it is
no literal. -/
theorem Readable.readFrom_append_reserved {inQuote : Bool} {t x : Text} {c : CodePoint}
    (readable : Readable inQuote t) (reserved : c.isReserved = true)
    (notApostrophe : c ≠ apostrophe) (notBackslash : c ≠ Tailoring.backslash) :
    readFrom 0 inQuote (t ++ c :: x) = none := by
  induction readable with
  | nil => exact readFrom_reserved x reserved notApostrophe notBackslash
  | doubled _ ih =>
      rw [List.cons_append, List.cons_append, readFrom_doubled, ih, Option.map_none]
  | @quote inQuote t single _ ih =>
      have single : (t ++ c :: x).head? ≠ some apostrophe := by
        cases t with
        | nil => simpa using notApostrophe
        | cons => exact single
      rw [List.cons_append, readFrom_quote inQuote single, ih]
  | quoted other _ ih => rw [List.cons_append, readFrom_quoted _ other, ih, Option.map_none]
  | bare free _ ih => rw [List.cons_append, readFrom_bare _ free, ih, Option.map_none]
  | @backslash d t uncounted _ ih =>
      rw [← unicodeEscapeLength_append_reserved _ x reserved notBackslash, List.cons_append,
        List.cons_append] at uncounted
      rw [List.cons_append, List.cons_append, readFrom_backslash uncounted, ih,
        Option.map_none]
  | unicode valid _ ih => rw [List.append_assoc, readFrom_unicode _ valid, ih, Option.map_none]

theorem not_isSome_append_stops {literal rest x : Text} (success : (read? literal).isSome = true)
    (stops : Stops (rest ++ x)) (present : rest ≠ []) :
    (read? (literal ++ rest)).isSome = false := by
  cases rest with
  | nil => exact absurd rfl present
  | cons c rest =>
      obtain ⟨reserved, notApostrophe, notBackslash⟩ := stops c rfl
      have unread := (readable_of_isSome success).readFrom_append_reserved (x := rest) reserved
        notApostrophe notBackslash
      rw [read?, unread]
      rfl

/-- Two literals, each with a stop after it, that make the same text are the
same. -/
theorem literal_append_cancel {literal literal' x y : Text}
    (success : (read? literal).isSome = true) (success' : (read? literal').isSome = true)
    (stops : Stops x) (stops' : Stops y) (same : literal ++ x = literal' ++ y) :
    literal = literal' ∧ x = y := by
  rcases List.append_eq_append_iff.mp same with ⟨rest, rfl, rfl⟩ | ⟨rest, rfl, rfl⟩
  · by_cases present : rest = []
    · simp [present]
    · rw [not_isSome_append_stops success stops present] at success'
      cases success'
  · by_cases present : rest = []
    · simp [present]
    · rw [not_isSome_append_stops success' stops' present] at success
      cases success

/-! ## Plain data -/

/-- Data with neither apostrophes nor backslashes. -/
structure Plain (data : Text) : Prop where
  present : data ≠ []
  noApostrophe : apostrophe ∉ data
  noBackslash : backslash ∉ data

theorem escapedLength_of_ne {inSpan : Bool} {c : CodePoint} {rest : Text}
    (notApostrophe : c ≠ apostrophe) (notBackslash : c ≠ backslash) :
    escapedLength inSpan (c :: rest) = 0 := by
  cases rest with
  | nil => rfl
  | cons d rest =>
      rw [escapedLength_of_not_escapesReserved (by simp [EscapesReserved, *]),
        unicodeEscapeLength_of_ne notBackslash]

theorem meaning_of_noBackslash {data : Text} (noBackslash : backslash ∉ data) :
    meaning data = data.map .character := by
  unfold meaning
  induction data with
  | nil => rfl
  | cons c rest ih =>
      simp only [List.mem_cons, not_or] at noBackslash
      have different : c ≠ backslash := fun same => noBackslash.1 same.symm
      simp only [meaningFrom, different, false_and, if_false,
        unicodeEscapeLength_of_ne different, List.map_cons, ih noBackslash.2]

theorem Plain.read?_ofText {data : Text} (plain : Plain data) :
    read? (ofText data) = some (data.map .character) := by
  rw [← meaning_of_noBackslash plain.noBackslash]
  exact (unmistaken_of_clear (apostrophesClear_of_not_mem plain.noApostrophe)).readFrom_writeFrom

theorem Plain.isSome_read? {data : Text} (plain : Plain data) :
    (read? (ofText data)).isSome = true := by
  rw [plain.read?_ofText]
  rfl

theorem Plain.ofText_injective {data data' : Text} (plain : Plain data) (plain' : Plain data')
    (same : ofText data = ofText data') : data = data' := by
  have read := plain.read?_ofText
  rw [same, plain'.read?_ofText] at read
  have injective : Function.Injective Piece.character := fun _ _ => Piece.character.inj
  exact (List.map_injective_iff.mpr injective (Option.some.inj read)).symm

/-- The literal of plain data starts with an apostrophe or an unreserved code
point. -/
theorem Plain.head_ofText {data : Text} (plain : Plain data) :
    ∃ c rest, ofText data = c :: rest ∧ (c.isReserved = false ∨ c = apostrophe) := by
  obtain ⟨c, rest, rfl⟩ := List.exists_cons_of_ne_nil plain.present
  have notApostrophe : c ≠ apostrophe := by
    rintro rfl
    exact plain.noApostrophe (by simp)
  have notBackslash : c ≠ backslash := by
    rintro rfl
    exact plain.noBackslash (by simp)
  rw [ofText, writeFrom_plain (escapedLength_of_ne notApostrophe notBackslash)]
  by_cases free : c.isReserved = false
  · rw [writeScalar_free false free]
    exact ⟨c, _, rfl, .inl free⟩
  · rw [writeScalar_outside (by simpa using free) notApostrophe]
    exact ⟨apostrophe, _, rfl, .inr rfl⟩

/-- What is written ends with the data's last code point, which is no blank, or
with the apostrophe that closes a span. -/
theorem getLast?_writeFrom {data : Text} (noApostrophe : apostrophe ∉ data)
    (noBackslash : backslash ∉ data) :
    ∀ {inSpan : Bool}, inSpan = true ∨ data ≠ [] →
      ∃ c, (writeFrom 0 inSpan data).getLast? = some c ∧ c.isBlank = false := by
  induction data with
  | nil =>
      intro inSpan present
      obtain rfl : inSpan = true := by simpa using present
      exact ⟨apostrophe, rfl, by decide⟩
  | cons c rest ih =>
      intro inSpan _
      simp only [List.mem_cons, not_or] at noApostrophe noBackslash
      have notApostrophe : c ≠ apostrophe := fun same => noApostrophe.1 same.symm
      have notBackslash : c ≠ backslash := fun same => noBackslash.1 same.symm
      rw [writeFrom_plain (escapedLength_of_ne notApostrophe notBackslash), List.getLast?_append]
      by_cases more : (writeScalar inSpan (.single c)).2 = true ∨ rest ≠ []
      · obtain ⟨last, ended, solid⟩ := ih noApostrophe.2 noBackslash.2 more
        exact ⟨last, by rw [ended]; rfl, solid⟩
      · obtain ⟨closed, rfl⟩ : (writeScalar inSpan (.single c)).2 = false ∧ rest = [] := by
          simpa using more
        obtain ⟨padding, _, written⟩ := exists_padding inSpan c
        refine ⟨c, ?_, not_isBlank_of_closed closed⟩
        rw [closed, written, writeFrom_nil]
        simp

end Tailoring.Literal

import Tailoring.Proofs.Literal.Plain

/-!
# Writing a literal again

A text may be a literal already. The writer then leaves alone what it takes for
escapes, each known by its first two code points: a backslash or an apostrophe
with a reserved code point after it, and Unicode escapes. A quoted span is more
than that. Of its code points only the first counts as escaped; the others are
quoted once more and the apostrophe at the end is doubled, so that the quote stays
open or closes too early.

A literal that denotes no apostrophe is read the same after a second writing only if
that writing changes nothing: the first apostrophe put in would be read as one, or
would make the pieces different.
-/

set_option autoImplicit false

namespace Tailoring.Literal

/-! ## Texts without anything to escape -/

/-- Texts of unreserved code points, reserved ones after a backslash or an
apostrophe, and Unicode escapes. -/
inductive Settled : Text → Prop where
  | nil : Settled []
  | bare {c t} : c.isReserved = false → Settled t → Settled (c :: t)
  | escape {c d t} : EscapesReserved false c d → Settled t → Settled (c :: d :: t)
  | unicode {escape t} : IsUnicodeEscape escape → Settled t → Settled (escape ++ t)

theorem escapedLength_of_free {c : CodePoint} (inSpan : Bool) (rest : Text)
    (free : c.isReserved = false) : escapedLength inSpan (c :: rest) = 0 := by
  apply escapedLength_of_ne
  · rintro rfl
    exact absurd CodePoint.isReserved_apostrophe (by simp [free])
  · rintro rfl
    exact absurd CodePoint.isReserved_backslash (by simp [free])

theorem free_of_plain_backslash {d : CodePoint} {t : Text}
    (plain : escapedLength false (backslash :: d :: t) = 0) :
    d.isReserved = false ∧ unicodeEscapeLength (backslash :: d :: t) = 0 := by
  have unescaped : ¬EscapesReserved false backslash d := by
    intro escapes
    rw [escapedLength_of_escapesReserved escapes] at plain
    cases plain
  rw [escapedLength_of_not_escapesReserved unescaped] at plain
  have free : ¬d.isReserved = true := fun reserved => unescaped ⟨.inl rfl, reserved⟩
  exact ⟨by simpa using free, plain⟩

theorem writeFrom_free {c : CodePoint} (inSpan : Bool) (rest : Text)
    (free : c.isReserved = false) :
    writeFrom 0 inSpan (c :: rest) = closing inSpan ++ c :: writeFrom 0 false rest := by
  rw [writeFrom_plain (escapedLength_of_free inSpan rest free), writeScalar_free inSpan free]
  simp

theorem writeFrom_free_append {front : Text} (rest : Text)
    (free : ∀ c ∈ front, c.isReserved = false) :
    writeFrom 0 false (front ++ rest) = front ++ writeFrom 0 false rest := by
  induction front with
  | nil => rfl
  | cons c front ih =>
      rw [List.cons_append, writeFrom_free false _ (free c (by simp)),
        ih fun later member => free later (.tail _ member)]
      rfl

theorem Settled.free_append {front t : Text} (free : ∀ c ∈ front, c.isReserved = false)
    (settled : Settled t) : Settled (front ++ t) := by
  induction front with
  | nil => exact settled
  | cons c front ih =>
      exact .bare (free c (by simp)) (ih fun later member => free later (.tail _ member))

theorem Settled.ofText_eq {t : Text} (settled : Settled t) : ofText t = t := by
  unfold ofText
  induction settled with
  | nil => rfl
  | bare free _ ih =>
      rw [writeFrom_free false _ free, ih]
      rfl
  | escape escapes _ ih =>
      rw [writeFrom_escape _ escapes, ih]
      rfl
  | unicode valid _ ih =>
      rw [writeFrom_unicode false _ valid, ih]
      rfl

/-! ## Literals that denote no apostrophe -/

/-- The text is read as these pieces, and no apostrophe is among them. -/
def Denotes (inQuote : Bool) (t : Text) (pieces : List Piece) : Prop :=
  readFrom 0 inQuote t = some pieces ∧ .character apostrophe ∉ pieces

/-- The pieces start with the given ones, and the text is read as the others. -/
def DenotesAfter (front : List Piece) (inQuote : Bool) (t : Text) (pieces : List Piece) : Prop :=
  ∃ rest, pieces = front ++ rest ∧ Denotes inQuote t rest

theorem DenotesAfter.common {front : List Piece} {inQuote : Bool} {t t' : Text}
    {pieces : List Piece} (first : DenotesAfter front inQuote t pieces)
    (second : DenotesAfter front inQuote t' pieces) :
    ∃ rest, Denotes inQuote t rest ∧ Denotes inQuote t' rest := by
  obtain ⟨rest, rfl, denotes⟩ := first
  obtain ⟨rest', same, denotes'⟩ := second
  cases List.append_cancel_left same
  exact ⟨rest, denotes, denotes'⟩

namespace Denotes

theorem of_map {inQuote : Bool} {t : Text} {piece : Piece} {pieces : List Piece}
    (read : (readFrom 0 inQuote t).map (piece :: ·) = some pieces)
    (absent : .character apostrophe ∉ pieces) :
    piece ≠ .character apostrophe ∧ DenotesAfter [piece] inQuote t pieces := by
  obtain ⟨rest, readRest, rfl⟩ := Option.map_eq_some_iff.mp read
  exact ⟨(List.ne_of_not_mem_cons absent).symm, rest, rfl, readRest,
    List.not_mem_of_not_mem_cons absent⟩

theorem apostrophe {inQuote : Bool} {t : Text} {pieces : List Piece}
    (denotes : Denotes inQuote (Tailoring.apostrophe :: t) pieces) :
    t.head? ≠ some Tailoring.apostrophe ∧ Denotes (!inQuote) t pieces := by
  obtain ⟨read, absent⟩ := denotes
  by_cases doubled : t.head? = some Tailoring.apostrophe
  · obtain ⟨rest, rfl⟩ := List.head?_eq_some_iff.mp doubled
    rw [readFrom_doubled] at read
    exact absurd rfl (of_map read absent).1
  · rw [readFrom_quote inQuote doubled] at read
    exact ⟨doubled, read, absent⟩

theorem quoted {c : CodePoint} {t : Text} {pieces : List Piece} (other : c ≠ Tailoring.apostrophe)
    (denotes : Denotes true (c :: t) pieces) :
    DenotesAfter [.character c] true t pieces := by
  obtain ⟨read, absent⟩ := denotes
  rw [readFrom_quoted t other] at read
  exact (of_map read absent).2

theorem bare {c : CodePoint} {t : Text} {pieces : List Piece} (free : c.isReserved = false)
    (denotes : Denotes false (c :: t) pieces) :
    DenotesAfter [.character c] false t pieces := by
  obtain ⟨read, absent⟩ := denotes
  rw [readFrom_bare t free] at read
  exact (of_map read absent).2

theorem backslash {d : CodePoint} {t : Text} {pieces : List Piece}
    (uncounted : unicodeEscapeLength (Tailoring.backslash :: d :: t) = 0)
    (denotes : Denotes false (Tailoring.backslash :: d :: t) pieces) :
    d ≠ Tailoring.apostrophe ∧ DenotesAfter [.character d] false t pieces := by
  obtain ⟨read, absent⟩ := denotes
  rw [readFrom_backslash uncounted] at read
  obtain ⟨other, denoted⟩ := of_map read absent
  exact ⟨fun same => other (congrArg Piece.character same), denoted⟩

theorem doubled_backslash {t : Text} {pieces : List Piece}
    (denotes : Denotes false (Tailoring.backslash :: Tailoring.backslash :: t) pieces) :
    DenotesAfter [.character Tailoring.backslash] false t pieces :=
  (denotes.backslash (unicodeEscapeLength_of_isReserved CodePoint.isReserved_backslash)).2

theorem unicode {escape t : Text} {pieces : List Piece} (valid : IsUnicodeEscape escape)
    (denotes : Denotes false (escape ++ t) pieces) :
    DenotesAfter [.escape escape] false t pieces := by
  obtain ⟨read, absent⟩ := denotes
  rw [readFrom_unicode t valid] at read
  exact (of_map read absent).2

theorem eq_backslash {c : CodePoint} {t : Text} {pieces : List Piece}
    (reserved : c.isReserved = true) (other : c ≠ Tailoring.apostrophe)
    (denotes : Denotes false (c :: t) pieces) : c = Tailoring.backslash := by
  by_contra different
  have unread := denotes.1
  rw [readFrom_reserved t reserved other different] at unread
  cases unread

theorem not_escaped_apostrophe {t : Text} {pieces : List Piece} :
    ¬Denotes false (Tailoring.backslash :: Tailoring.apostrophe :: t) pieces := by
  intro denotes
  have uncounted :
      unicodeEscapeLength (Tailoring.backslash :: Tailoring.apostrophe :: t) = 0 :=
    unicodeEscapeLength_of_isReserved CodePoint.isReserved_apostrophe
  exact (denotes.backslash uncounted).1 rfl

theorem quoted_append {front t : Text} {pieces : List Piece}
    (absent : Tailoring.apostrophe ∉ front) (denotes : Denotes true (front ++ t) pieces) :
    DenotesAfter (front.map .character) true t pieces := by
  induction front generalizing pieces with
  | nil => exact ⟨pieces, rfl, denotes⟩
  | cons c front ih =>
      obtain ⟨later, rfl, ofLater⟩ := denotes.quoted (List.ne_of_not_mem_cons absent).symm
      obtain ⟨rest, rfl, ofRest⟩ := ih (List.not_mem_of_not_mem_cons absent) ofLater
      exact ⟨rest, rfl, ofRest⟩

theorem bare_append {front t : Text} {pieces : List Piece}
    (free : ∀ c ∈ front, c.isReserved = false) (denotes : Denotes false (front ++ t) pieces) :
    DenotesAfter (front.map .character) false t pieces := by
  induction front generalizing pieces with
  | nil => exact ⟨pieces, rfl, denotes⟩
  | cons c front ih =>
      obtain ⟨later, rfl, ofLater⟩ := denotes.bare (free c (by simp))
      obtain ⟨rest, rfl, ofRest⟩ := ih (fun later member => free later (.tail _ member)) ofLater
      exact ⟨rest, rfl, ofRest⟩

end Denotes

/-! ## The first change -/

/-- If reading goes on alike in a text and in what is written for it, the text is
settled. The reader has come as far as the writer, or is behind by a backslash
that the writer has copied together with an apostrophe. -/
structure Resumes (t : Text) : Prop where
  level : ∀ {inQuote pieces}, Denotes inQuote t pieces →
    Denotes inQuote (writeFrom 0 false t) pieces → Settled t
  behind : ∀ {pieces}, Denotes false (backslash :: t) pieces →
    Denotes false (backslash :: writeFrom 0 false t) pieces → Settled t

namespace Resumes

theorem after_apostrophe {t : Text} {inQuote : Bool} {pieces : List Piece} (resumes : Resumes t)
    (before : Denotes inQuote (apostrophe :: t) pieces)
    (after : Denotes inQuote (apostrophe :: writeFrom 0 false t) pieces) : Settled t :=
  resumes.level before.apostrophe.2 after.apostrophe.2

theorem after_quoted {t : Text} {c : CodePoint} {pieces : List Piece} (resumes : Resumes t)
    (before : Denotes true (c :: t) pieces)
    (after : Denotes true (c :: writeFrom 0 false t) pieces) : Settled t := by
  by_cases quote : c = apostrophe
  · subst quote
    exact resumes.after_apostrophe before after
  · obtain ⟨rest, restBefore, restAfter⟩ :=
      (before.quoted quote).common (after.quoted quote)
    exact resumes.level restBefore restAfter

theorem after_reserved {t : Text} {c : CodePoint} {pieces : List Piece} (resumes : Resumes t)
    (reserved : c.isReserved = true) (before : Denotes false (c :: t) pieces)
    (after : Denotes false (c :: writeFrom 0 false t) pieces) : Settled t := by
  by_cases quote : c = apostrophe
  · subst quote
    exact resumes.after_apostrophe before after
  · obtain rfl := before.eq_backslash reserved quote
    exact resumes.behind before after

theorem nil : Resumes [] :=
  ⟨fun _ _ => .nil, fun _ _ => .nil⟩

theorem escape {c d : CodePoint} {t : Text} (escapes : EscapesReserved false c d)
    (resumes : Resumes t) : Resumes (c :: d :: t) := by
  have written : writeFrom 0 false (c :: d :: t) = c :: d :: writeFrom 0 false t :=
    writeFrom_escape t escapes
  have uncounted : ∀ x, unicodeEscapeLength (backslash :: d :: x) = 0 := fun _ =>
    unicodeEscapeLength_of_isReserved escapes.2
  constructor
  · intro inQuote pieces before after
    rw [written] at after
    refine .escape escapes ?_
    obtain ⟨rfl | ⟨rfl, -⟩, reserved⟩ := escapes
    · cases inQuote with
      | true =>
          obtain ⟨rest, restBefore, restAfter⟩ :=
            (before.quoted (by decide)).common (after.quoted (by decide))
          exact resumes.after_quoted restBefore restAfter
      | false =>
          obtain ⟨rest, restBefore, restAfter⟩ :=
            (before.backslash (uncounted _)).2.common (after.backslash (uncounted _)).2
          exact resumes.level restBefore restAfter
    · cases inQuote with
      | true => exact resumes.after_reserved reserved before.apostrophe.2 after.apostrophe.2
      | false => exact resumes.after_quoted before.apostrophe.2 after.apostrophe.2
  · intro pieces before after
    rw [written] at after
    refine .escape escapes ?_
    obtain ⟨rfl | ⟨rfl, -⟩, reserved⟩ := escapes
    · obtain ⟨rest, restBefore, restAfter⟩ :=
        before.doubled_backslash.common after.doubled_backslash
      exact resumes.after_reserved reserved restBefore restAfter
    · exact absurd before Denotes.not_escaped_apostrophe

theorem unicode {escape t : Text} (valid : IsUnicodeEscape escape) (resumes : Resumes t) :
    Resumes (escape ++ t) := by
  have written : writeFrom 0 false (escape ++ t) = escape ++ writeFrom 0 false t :=
    writeFrom_unicode false t valid
  constructor
  · intro inQuote pieces before after
    rw [written] at after
    refine .unicode valid ?_
    cases inQuote with
    | true =>
        have absent : apostrophe ∉ escape := valid.not_mem (by decide) (by decide)
        obtain ⟨rest, restBefore, restAfter⟩ :=
          (before.quoted_append absent).common (after.quoted_append absent)
        exact resumes.level restBefore restAfter
    | false =>
        obtain ⟨rest, restBefore, restAfter⟩ :=
          (before.unicode valid).common (after.unicode valid)
        exact resumes.level restBefore restAfter
  · intro pieces before after
    rw [written] at after
    refine .unicode valid ?_
    obtain ⟨tail, rfl, free⟩ := valid.exists_free_tail
    obtain ⟨rest, restBefore, restAfter⟩ :=
      before.doubled_backslash.common after.doubled_backslash
    obtain ⟨later, laterBefore, laterAfter⟩ :=
      (restBefore.bare_append free).common (restAfter.bare_append free)
    exact resumes.level laterBefore laterAfter

/-- A backslash before the code point may start a Unicode escape with it. -/
theorem bare {c : CodePoint} {t : Text} (free : c.isReserved = false)
    (shorter : ∀ later : Text, later.length ≤ t.length → Resumes later) : Resumes (c :: t) := by
  have resumes := shorter t le_rfl
  have written : writeFrom 0 false (c :: t) = c :: writeFrom 0 false t :=
    writeFrom_free false t free
  constructor
  · intro inQuote pieces before after
    rw [written] at after
    refine .bare free ?_
    cases inQuote with
    | true => exact resumes.after_quoted before after
    | false =>
        obtain ⟨rest, restBefore, restAfter⟩ :=
          (before.bare free).common (after.bare free)
        exact resumes.level restBefore restAfter
  · intro pieces before after
    by_cases counted : unicodeEscapeLength (backslash :: c :: t) = 0
    · rw [written] at after
      refine .bare free ?_
      obtain ⟨-, rest, rfl, restBefore⟩ := before.backslash counted
      by_cases countedAfter : unicodeEscapeLength (backslash :: c :: writeFrom 0 false t) = 0
      · obtain ⟨-, _, same, restAfter⟩ := after.backslash countedAfter
        cases same
        exact resumes.level restBefore restAfter
      · obtain ⟨escape, later, split, valid⟩ := exists_of_unicodeEscapeLength countedAfter
        rw [split] at after
        obtain ⟨_, same, -⟩ := after.unicode valid
        cases same
    · obtain ⟨escape, later, split, valid⟩ := exists_of_unicodeEscapeLength counted
      obtain ⟨tail, rfl, freeTail⟩ := valid.exists_free_tail
      have splitTail : c :: t = tail ++ later := (List.cons.inj split).2
      have shorterLater : later.length ≤ t.length := by
        have lengths := congrArg List.length splitTail
        have tailPresent : 0 < tail.length := by
          cases valid <;> simp
        simp only [List.length_cons, List.length_append] at lengths
        omega
      rw [splitTail] at before after ⊢
      rw [writeFrom_free_append later freeTail] at after
      obtain ⟨rest, restBefore, restAfter⟩ :=
        (before.unicode valid).common (after.unicode valid)
      exact .free_append freeTail ((shorter later shorterLater).level restBefore restAfter)

/-- The writer doubles an apostrophe or opens a quote, and either is read. -/
theorem reserved {c : CodePoint} {t : Text} (plain : escapedLength false (c :: t) = 0)
    (reserved : c.isReserved = true) : Resumes (c :: t) := by
  by_cases quote : c = apostrophe
  · subst quote
    have written : writeFrom 0 false (apostrophe :: t) =
        apostrophe :: apostrophe :: writeFrom 0 false t := by
      rw [writeFrom_plain plain, writeScalar_apostrophe]
      rfl
    constructor
    · intro inQuote pieces _ after
      rw [written] at after
      exact absurd rfl after.apostrophe.1
    · intro pieces before _
      exact absurd before Denotes.not_escaped_apostrophe
  · have written : writeFrom 0 false (c :: t) = apostrophe :: c :: writeFrom 0 true t := by
      rw [writeFrom_plain plain, writeScalar_outside reserved quote]
      rfl
    constructor
    · intro inQuote pieces before after
      rw [written] at after
      have opened := after.apostrophe.2
      exfalso
      cases inQuote with
      | false =>
          -- the backslash escapes an unreserved code point, and is itself read afterwards
          obtain rfl := before.eq_backslash reserved quote
          cases t with
          | nil => cases before.1
          | cons d t =>
              obtain ⟨free, uncounted⟩ := free_of_plain_backslash plain
              obtain ⟨-, _, rfl, -⟩ := before.backslash uncounted
              obtain ⟨_, same, -⟩ := opened.quoted quote
              cases same
              exact absurd reserved (by simp [free])
      | true =>
          -- the new quote closes the old one, and the backslash escapes its end
          obtain rfl := opened.eq_backslash reserved quote
          cases t with
          | nil => exact Denotes.not_escaped_apostrophe opened
          | cons d t =>
              rw [writeFrom_free true t (free_of_plain_backslash plain).1] at opened
              exact Denotes.not_escaped_apostrophe opened
    · intro pieces _ after
      rw [written] at after
      exact absurd after Denotes.not_escaped_apostrophe

end Resumes

theorem resumes_of_shorter {t : Text}
    (shorter : ∀ later : Text, later.length < t.length → Resumes later) : Resumes t := by
  have plain : ∀ c rest, t = c :: rest → escapedLength false t = 0 → Resumes t := by
    rintro c rest rfl uncounted
    by_cases free : c.isReserved = false
    · exact .bare free fun later le => shorter later (Nat.lt_succ_of_le le)
    · exact .reserved uncounted (by simpa using free)
  match t with
  | [] => exact .nil
  | [c] => exact plain c [] rfl rfl
  | c :: d :: rest =>
      by_cases escapes : EscapesReserved false c d
      · exact .escape escapes (shorter rest (by simp only [List.length_cons]; omega))
      by_cases counted : unicodeEscapeLength (c :: d :: rest) = 0
      · rw [← escapedLength_of_not_escapesReserved escapes] at counted
        exact plain c (d :: rest) rfl counted
      · obtain ⟨escape, after, split, valid⟩ := exists_of_unicodeEscapeLength counted
        have shorterAfter := shorter after (valid.length_lt split)
        rw [split]
        exact .unicode valid shorterAfter

theorem resumes (t : Text) : Resumes t :=
  resumes_of_shorter fun later _ => resumes later
termination_by t.length

/-! ## Reading what was written twice -/

theorem Unmistaken.mem_of_mem_meaningFrom {inSpan : Bool} {t : Text} {c : CodePoint}
    (unmistaken : Unmistaken inSpan t) (member : .character c ∈ meaningFrom 0 t) : c ∈ t := by
  induction unmistaken with
  | nil => cases member
  | escape reserved _ ih =>
      rw [meaningFrom_backslash _ reserved] at member
      rcases List.mem_cons.mp member with same | later
      · cases same
        simp
      · simp [ih later]
  | unicode valid _ ih =>
      rw [meaningFrom_unicode _ valid] at member
      rcases List.mem_cons.mp member with same | later
      · cases same
      · exact List.mem_append_right _ (ih later)
  | plain uncounted _ ih =>
      rw [meaningFrom_plain uncounted] at member
      rcases List.mem_cons.mp member with same | later
      · cases same
        simp
      · simp [ih later]

theorem read_ofText_eq_iff {t : Text} {pieces : List Piece} (accepted : read? t = some pieces)
    (absent : .character apostrophe ∉ pieces) :
    read? (ofText t) = some pieces ↔ Settled t := by
  constructor
  · intro again
    exact (resumes t).level ⟨accepted, absent⟩ ⟨again, absent⟩
  · intro settled
    rw [settled.ofText_eq]
    exact accepted

/-- A settled text is written as it is. A literal that denotes no apostrophe is read
the same after it is written again exactly if it is settled. What is written for a
text without apostrophes is such a literal. -/
theorem read_ofText_again (t : Text) :
    (Settled t → ofText t = t) ∧
      (∀ pieces, read? t = some pieces → .character apostrophe ∉ pieces →
        (read? (ofText t) = some pieces ↔ Settled t)) ∧
      (apostrophe ∉ t → ∃ pieces, read? (ofText t) = some pieces ∧
        (read? (ofText (ofText t)) = some pieces ↔ Settled (ofText t))) := by
  refine ⟨Settled.ofText_eq, fun pieces => read_ofText_eq_iff, fun free => ?_⟩
  have unmistaken := unmistaken_of_clear (apostrophesClear_of_not_mem free)
  have accepted : read? (ofText t) = some (meaning t) := unmistaken.readFrom_writeFrom
  have absent : .character apostrophe ∉ meaning t := fun member =>
    free (unmistaken.mem_of_mem_meaningFrom member)
  exact ⟨meaning t, accepted, read_ofText_eq_iff accepted absent⟩

/-- A quoted hyphen with a Unicode escape after it: the end of the quote and the
backslash count as escaped together. -/
theorem read_ofText_again_before_unicode :
    ofText "-\\u0041" = ("'-'\\u0041" : Text) ∧
      read? (ofText (ofText "-\\u0041")) = some [.character '-', .escape "\\u0041"] := by
  have written : ofText "-\\u0041" = ("'-'\\u0041" : Text) := by decide
  have accepted : read? "'-'\\u0041" = some [.character '-', .escape "\\u0041"] := by decide
  have letterAndDigits : Settled ("u0041" : Text) :=
    .bare (by decide) (.bare (by decide) (.bare (by decide)
      (.bare (by decide) (.bare (by decide) .nil))))
  have settled : Settled ("'-'\\u0041" : Text) :=
    .escape ⟨.inr ⟨rfl, rfl⟩, by decide⟩
      (.escape ⟨.inr ⟨rfl, rfl⟩, by decide⟩ letterAndDigits)
  refine ⟨written, ?_⟩
  rw [written]
  exact ((read_ofText_again "'-'\\u0041").2.1 _ accepted (by decide)).mpr settled

/-- Of a quoted hyphen the end of the quote is doubled, and the quote stays open. -/
theorem ofText_opens_quoted_hyphen :
    ofText "-" = ("'-'" : Text) ∧ read? "'-'" = some [.character '-'] ∧
      ofText "'-'" = ("'-''" : Text) ∧ read? (ofText "'-'") = none := by
  decide

end Tailoring.Literal

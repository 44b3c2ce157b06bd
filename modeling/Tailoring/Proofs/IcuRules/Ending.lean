import Tailoring.Proofs.IcuRules.VariableTop
import Tailoring.Proofs.Literal.Insertion
import Tailoring.Proofs.Text.Layout
import Tailoring.Proofs.Text.Search

/-!
# How ICU rules end

Rules are trimmed as a whole, and trimming knows nothing of literals: it looks for a
backslash just before the last code point. A literal ends in a blank only if the
writer has copied an escape of that blank. If a backslash escapes it, trimming sees
so; an apostrophe that escapes a blank is not seen. Every other datum at the end of the
rules is complete there.
-/

set_option autoImplicit false

namespace Tailoring

/-- The text ends in no blank, or in one that a backslash escapes. -/
def EndsFirm (t : Text) : Prop :=
  EndsSolid t ∨ ∃ front c, c.isBlank = true ∧ t = front ++ [backslash, c]

/-- The text ends in a blank with an apostrophe before it. -/
def EndsQuotedBlank (t : Text) : Prop :=
  ∃ front c, c.isBlank = true ∧ t = front ++ [apostrophe, c]

theorem EndsFirm.append {t : Text} (firm : EndsFirm t) (front : Text) : EndsFirm (front ++ t) := by
  rcases firm with solid | ⟨inner, c, blank, rfl⟩
  · exact .inl (solid.append front)
  · exact .inr ⟨front ++ inner, c, blank, by simp⟩

theorem endsSolid_concat {c : CodePoint} (front : Text) (solid : c.isBlank = false) :
    EndsSolid (front ++ [c]) :=
  ⟨c, by simp, solid⟩

theorem EndsQuotedBlank.append {t : Text} (ends : EndsQuotedBlank t) (front : Text) :
    EndsQuotedBlank (front ++ t) := by
  obtain ⟨inner, c, blank, rfl⟩ := ends
  exact ⟨front ++ inner, c, blank, by simp⟩

theorem not_endsQuotedBlank_of_backslash (front : Text) (c : CodePoint) :
    ¬EndsQuotedBlank (front ++ [backslash, c]) := by
  intro ends
  obtain ⟨inner, d, -, same⟩ := ends
  have lasts : [backslash, c] = [apostrophe, d] := List.append_inj_right' same rfl
  exact absurd (List.cons.inj lasts).1 (by decide)

/-! ## Trimming -/

theorem Text.trimStart_append {front : Text} {c : CodePoint} (member : c ∈ front)
    (solid : c.isBlank = false) (back : Text) :
    trimStart (front ++ back) = trimStart front ++ back := by
  have kept : trimStart front ≠ [] := by
    intro dropped
    have blank := List.dropWhile_eq_nil_iff.mp dropped c member
    rw [solid] at blank
    cases blank
  unfold trimStart at kept ⊢
  simp [List.dropWhile_append, kept]

/-- Of a text that ends firm only the start is trimmed, and no more of it than stands
before the first code point that is no blank. -/
theorem IcuRules.trim_append {front back : Text} {c : CodePoint} (member : c ∈ front)
    (solid : c.isBlank = false) (firm : EndsFirm back) :
    IcuRules.trim (front ++ back) = front.trimStart ++ back := by
  unfold IcuRules.trim
  split
  · exact Text.trimStart_append member solid back
  · next unescaped =>
    rcases firm with ends | ⟨inner, d, blank, rfl⟩
    · rw [Text.trim, Text.trimStart_append member solid]
      obtain ⟨last, found, notBlank⟩ := ends.append front.trimStart
      refine Text.trimEnd_of_solid fun e ended => ?_
      rw [found] at ended
      cases ended
      exact notBlank
    · have absent : backslash ∉ ([] : Text) ++ [d] := by
        intro same
        obtain rfl : backslash = d := by simpa using same
        exact absurd blank (by decide)
      have found : Text.lastIndexOf? [backslash] (front ++ (inner ++ [backslash, d])) =
          some (front.length + inner.length) := by
        simpa using Text.lastIndexOf?_at_end absent (front ++ inner)
      refine absurd ⟨?_, ?_⟩ unescaped
      · rw [found, List.length_append, List.length_append]
        rfl
      · simp only [List.length_append, List.length_cons]
        omega

/-! ## Literals -/

namespace Literal

theorem IsUnicodeEscape.endsSolid {escape : Text} (valid : IsUnicodeEscape escape) :
    EndsSolid escape := by
  obtain ⟨leading, digit, rfl, hexadecimal⟩ := valid.exists_last_digit
  have free := CodePoint.not_isReserved_of_isHexDigit hexadecimal
  exact endsSolid_concat leading (CodePoint.not_isBlank_of_free free)

theorem EscapesReserved.endsFirm {inSpan : Bool} {c d : CodePoint}
    (escapes : EscapesReserved inSpan c d) (unquoted : ¬EndsQuotedBlank [c, d]) :
    EndsFirm [c, d] := by
  cases blank : d.isBlank with
  | false => exact .inl (endsSolid_concat [c] blank)
  | true =>
      rcases escapes.1 with rfl | ⟨rfl, -⟩
      · exact .inr ⟨[], d, blank, rfl⟩
      · exact absurd ⟨[], d, blank, rfl⟩ unquoted

/-- The last step of the writer decides. It has closed a span, written a code point that
is no blank, or copied an escape, and only an escape can end in a blank. -/
theorem endsFirm_writeFrom {inSpan : Bool} {t : Text} :
    inSpan = true ∨ t ≠ [] → ¬EndsQuotedBlank t → EndsFirm (writeFrom 0 inSpan t) := by
  induction inSpan, t using scan_induction with
  | nil inSpan =>
      intro present _
      obtain rfl : inSpan = true := by simpa using present
      exact .inl ⟨apostrophe, rfl, by decide⟩
  | escape inSpan c d rest escapes ih =>
      intro _ unquoted
      rw [writeFrom_escape rest escapes]
      by_cases more : rest = []
      · subst more
        rw [writeFrom_nil]
        exact (escapes.endsFirm unquoted).append (closing inSpan)
      · have later := ih (.inr more) fun ends => unquoted (ends.append [c, d])
        exact (later.append [c, d]).append (closing inSpan)
  | unicode inSpan escape rest valid ih =>
      intro _ unquoted
      rw [writeFrom_unicode inSpan rest valid]
      by_cases more : rest = []
      · subst more
        rw [writeFrom_nil, List.append_nil]
        exact .inl (valid.endsSolid.append _)
      · exact (ih (.inr more) fun ends => unquoted (ends.append escape)).append _
  | plain inSpan c rest plain ih =>
      intro _ unquoted
      rw [writeFrom_plain plain]
      by_cases more : (writeScalar inSpan (.single c)).2 = true ∨ rest ≠ []
      · exact (ih more fun ends => unquoted (ends.append [c])).append _
      · obtain ⟨closed, rfl⟩ : (writeScalar inSpan (.single c)).2 = false ∧ rest = [] := by
          simpa using more
        obtain ⟨padding, _, written⟩ := exists_padding inSpan c
        rw [written, closed, writeFrom_nil, List.append_nil]
        exact .inl (endsSolid_concat padding (not_isBlank_of_closed closed))

theorem endsFirm_ofText {t : Text} (present : t ≠ []) (unquoted : ¬EndsQuotedBlank t) :
    EndsFirm (ofText t) :=
  endsFirm_writeFrom (.inr present) unquoted

theorem endsFirm_ofScalar {s : Scalar} (wellFormed : s.WellFormed) : EndsFirm (ofScalar s) := by
  rw [ofScalar_eq_ofText wellFormed]
  refine endsFirm_ofText s.text_ne_nil ?_
  intro ends
  obtain ⟨front, c, -, same⟩ := ends
  cases s with
  | single d =>
      have lengths := congrArg List.length same
      simp only [Scalar.text, List.length_append, List.length_cons, List.length_nil] at lengths
      omega
  | pair high low =>
      have aligned : [] ++ [high, low] = front ++ [apostrophe, c] := same
      have lasts : [high, low] = [apostrophe, c] := List.append_inj_right' aligned rfl
      obtain rfl : high = apostrophe := (List.cons.inj lasts).1
      exact absurd wellFormed.1 (by decide)

end Literal

/-! ## The last clause -/

theorem Strength.exists_solid_operator (strength : Strength) :
    ∃ c ∈ strength.operator, c.isBlank = false := by
  cases strength <;> exact ⟨_, List.mem_cons_self, by decide⟩

theorem Clause.exists_solid_lead (newline : Text) {clause : Clause} {datum : Text}
    (carries : clause.datum? = some datum) : ∃ c ∈ clause.lead newline, c.isBlank = false := by
  cases clause with
  | reset before _ => exact ⟨('&' : CodePoint), by simp [lead, Text.ofString], by decide⟩
  | relation strength _ =>
      obtain ⟨c, member, solid⟩ := strength.exists_solid_operator
      exact ⟨c, by simp [lead, member], solid⟩
  | extended body => cases carries

namespace VariableTop

/-- The datum after these clauses takes the marker: it is the target, and none of them
has taken it. -/
def TakenAfter (earlier : List Clause) (target : Option Text) (datum : Text) : Prop :=
  target = some datum ∧ ∀ clause ∈ earlier, clause.datum? ≠ some datum

instance (earlier : List Clause) (target : Option Text) (datum : Text) :
    Decidable (TakenAfter earlier target datum) :=
  inferInstanceAs (Decidable (_ ∧ _))

theorem endsSolid_marker : EndsSolid marker :=
  ⟨(']' : CodePoint), by decide, by decide⟩

theorem pending_eq_some_iff {newline datum : Text} {target : Option Text} {earlier : List Clause} :
    (IcuRules.write newline target earlier).2 = some datum ↔ TakenAfter earlier target datum := by
  unfold TakenAfter
  induction earlier generalizing target with
  | nil => simp [IcuRules.write]
  | cons clause earlier ih =>
      rw [IcuRules.write_cons, List.forall_mem_cons]
      cases carries : clause.datum? with
      | none => simp [ih]
      | some value =>
          by_cases taken : target = some value
          · subst taken
            simp only [Option.elim_some, take, if_true, IcuRules.write_none]
            constructor
            · intro left
              cases left
            · intro held
              exact absurd held.1 held.2.1
          · have other : target = some datum → some value ≠ some datum := fun given same =>
              taken (given.trans same.symm)
            simp only [Option.elim_some, take, taken, if_false, ih]
            exact ⟨fun held => ⟨held.1, other held.1, held.2⟩, fun held => ⟨held.1, held.2.2⟩⟩

end VariableTop

theorem IcuRules.write_concat {newline datum : Text} {clause : Clause}
    (carries : clause.datum? = some datum) (target : Option Text) (earlier : List Clause) :
    (write newline target (earlier ++ [clause])).1 =
      (write newline target earlier).1 ++ clause.lead newline ++
        (datum ++ if VariableTop.TakenAfter earlier target datum then VariableTop.marker else []) := by
  simp only [write_append, write, carries, VariableTop.take, VariableTop.pending_eq_some_iff]
  split <;> simp

/-- Trimming stops before the operator of the last clause, and does not touch what comes
after it. -/
theorem IcuRules.exists_trim_write_concat {newline datum : Text} {clause : Clause}
    (carries : clause.datum? = some datum) (firm : EndsFirm datum) (directives : Text)
    (target : Option Text) (earlier : List Clause) :
    ∃ front, trim (directives ++ (write newline target (earlier ++ [clause])).1) =
      front ++ (datum ++
        if VariableTop.TakenAfter earlier target datum then VariableTop.marker else []) := by
  obtain ⟨c, member, solid⟩ := clause.exists_solid_lead newline carries
  have firmMarked : EndsFirm (datum ++
      if VariableTop.TakenAfter earlier target datum then VariableTop.marker else []) := by
    split
    · exact .inl (VariableTop.endsSolid_marker.append datum)
    · rwa [List.append_nil]
  rw [write_concat carries, ← List.append_assoc directives]
  have inFront : c ∈ directives ++ ((write newline target earlier).1 ++ clause.lead newline) := by
    simp [member]
  exact ⟨_, trim_append inFront solid firmMarked⟩

namespace Item

/-- The datum that the clauses of an item end with, if trimming cannot reach it: the literal
of data that does not end in a blank after an apostrophe, or of the last scalar of
a sequence. -/
inductive EndsWith (item : Item) : Text → Prop where
  | reset {data : Text} :
      item.role? = some .reset → item.anchor = none → item.data = .ok data → data ≠ [] →
      ¬EndsQuotedBlank data → EndsWith item (Literal.ofText data)
  | relation {strength : Strength} {data : Text} :
      item.role? = some (.relation strength) → item.anchor = none → item.data = .ok data →
      data ≠ [] → ¬EndsQuotedBlank data → EndsWith item (Literal.ofText data)
  | sequence {strength : Strength} {data : Text} (present : data ≠ []) :
      item.role? = some (.sequence strength) → item.data = .ok data →
      EndsWith item
        (Literal.ofScalar ((Text.scalars data).getLast (Text.scalars_ne_nil present)))

theorem EndsWith.endsFirm {item : Item} {datum : Text} (ends : item.EndsWith datum) :
    EndsFirm datum := by
  cases ends with
  | reset _ _ _ present unquoted => exact Literal.endsFirm_ofText present unquoted
  | relation _ _ _ present unquoted => exact Literal.endsFirm_ofText present unquoted
  | sequence present _ _ =>
      have member := List.getLast_mem (Text.scalars_ne_nil present)
      exact Literal.endsFirm_ofScalar (Text.wellFormed_of_mem_scalars member)

theorem literal_of_data {item : Item} {data datum : Text} (unnamed : item.anchor = none)
    (read : item.data = .ok data) (literal : item.literal = .ok datum) :
    datum = Literal.ofText data := by
  unfold Item.literal at literal
  split at literal
  · cases literal
  · rw [unnamed, read] at literal
    exact (Except.ok.inj literal).symm

theorem EndsWith.exists_last_clause {item : Item} {datum : Text} {clauses : List Clause}
    (ends : item.EndsWith datum) (emits : item.Emits clauses) :
    ∃ earlier last, clauses = earlier ++ [last] ∧ last.datum? = some datum := by
  have emitted := clauses_eq_ok_iff.mpr emits
  cases ends with
  | reset role unnamed read =>
      simp only [Item.clauses, role] at emitted
      obtain ⟨before, _, emitted⟩ := Outcome.bind_eq_ok_iff.mp emitted
      obtain ⟨datum, literal, emitted⟩ := Outcome.bind_eq_ok_iff.mp emitted
      cases Outcome.pure_eq_ok_iff.mp emitted
      exact ⟨[], _, rfl, congrArg some (literal_of_data unnamed read literal)⟩
  | relation role unnamed read =>
      simp only [Item.clauses, role] at emitted
      obtain ⟨datum, literal, emitted⟩ := Outcome.bind_eq_ok_iff.mp emitted
      cases Outcome.pure_eq_ok_iff.mp emitted
      exact ⟨[], _, rfl, congrArg some (literal_of_data unnamed read literal)⟩
  | @sequence strength data present role read =>
      have last := List.getLast?_eq_some_getLast (Text.scalars_ne_nil present)
      generalize (Text.scalars data).getLast _ = s at last ⊢
      obtain ⟨front, parted⟩ := List.getLast?_eq_some_iff.mp last
      simp only [Item.clauses, role, read] at emitted
      split at emitted
      · cases emitted
      · obtain ⟨_, same, emitted⟩ := Outcome.bind_eq_ok_iff.mp emitted
        cases same
        cases Outcome.pure_eq_ok_iff.mp emitted
        rw [parted, List.map_append]
        exact ⟨_, _, rfl, rfl⟩

theorem EmitAll.exists_last_clause {items : List Item} {item : Item} {datum : Text}
    {clauses : List Clause} (emitted : EmitAll (items ++ [item]) clauses)
    (ends : item.EndsWith datum) :
    ∃ earlier last, clauses = earlier ++ [last] ∧ last.datum? = some datum := by
  obtain ⟨parts, each, rfl⟩ := emitted
  have backwards := List.forall₂_reverse_iff.mpr each
  rw [List.reverse_append, List.reverse_singleton, List.singleton_append,
    List.forall₂_cons_left_iff] at backwards
  obtain ⟨final, others, emits, _, reversed⟩ := backwards
  obtain ⟨within, last, rfl, carries⟩ := ends.exists_last_clause emits
  refine ⟨others.reverse.flatten ++ within, last, ?_, carries⟩
  rw [← List.reverse_reverse parts, reversed]
  simp

end Item

namespace Collation

/-- The last datum of the rules is complete at their end, and the marker follows it
exactly if it takes the marker. -/
theorem icuRules_end_with_datum {newline output datum : Text} {collation : Collation}
    {items : List Item} {item : Item} (rules : collation.rules = some (items ++ [item]))
    (ends : item.EndsWith datum) (written : collation.icuRules newline = .ok output) :
    ∃ settings earlier last front,
      Setting.Reads (collation.settings.getD []) settings ∧
      Item.EmitAll (items ++ [item]) (earlier ++ [last]) ∧ last.datum? = some datum ∧
      output = front ++ datum ++
        if VariableTop.TakenAfter earlier (Setting.lastTarget? settings) datum
        then VariableTop.marker else [] := by
  obtain ⟨settings, clauses, said, emitted, shape⟩ := icuRules_eq_ok_iff.mp written
  rw [rules, Option.getD_some] at emitted
  obtain ⟨earlier, last, rfl, carries⟩ := emitted.exists_last_clause ends
  obtain ⟨front, trimmed⟩ := IcuRules.exists_trim_write_concat carries ends.endsFirm
    (Setting.renderAll newline settings ++
      VariableTop.fallback newline
        (IcuRules.write newline (Setting.lastTarget? settings) (earlier ++ [last])).2 ++
      collation.optionDirectives newline)
    (Setting.lastTarget? settings) earlier
  refine ⟨settings, earlier, last, front, said, emitted, carries, ?_⟩
  rw [List.append_assoc]
  exact shape.trans trimmed

/-- A blank that a backslash escapes, at the end of the rules. -/
theorem icuRules_end_with_datum_escaped_blank :
    let collation : Collation :=
      { settings := some [("variableTop", "u0061")]
        rules := some [{ kind := "reset", text := "a" }, { kind := "p", text := "b\\ " }] }
    collation.icuRules [lineFeed] = .ok ("& a < [variable top] < b\\ " : Text) ∧
      ∃ settings earlier last front,
        Setting.Reads (collation.settings.getD []) settings ∧
        Item.EmitAll (collation.rules.getD []) (earlier ++ [last]) ∧
        last.datum? = some ("b\\ " : Text) ∧
        ("& a < [variable top] < b\\ " : Text) = front ++ "b\\ " ++
          if VariableTop.TakenAfter earlier (Setting.lastTarget? settings) "b\\ "
          then VariableTop.marker else [] := by
  intro collation
  have written : collation.icuRules [lineFeed] =
      .ok ("& a < [variable top] < b\\ " : Text) := rfl
  let last : Item := { kind := "p", text := "b\\ " }
  have ends : last.EndsWith (Literal.ofText "b\\ ") :=
    .relation rfl rfl rfl (by decide) (not_endsQuotedBlank_of_backslash "b" space)
  have literal : Literal.ofText "b\\ " = ("b\\ " : Text) := by decide
  rw [literal] at ends
  have rules : collation.rules = some ([{ kind := "reset", text := "a" }] ++ [last]) := rfl
  exact ⟨written, icuRules_end_with_datum rules ends written⟩

-- An apostrophe escapes a blank as well, and there the blank is lost.
example :
    ({ rules := some [{ kind := "reset", text := "a' " }] } : Collation).icuRules [lineFeed] =
      .ok ("& a'" : Text) := rfl

end Collation

end Tailoring

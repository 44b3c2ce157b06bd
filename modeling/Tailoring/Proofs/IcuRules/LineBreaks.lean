import Tailoring.Proofs.IcuRules.Unambiguous
import Tailoring.Proofs.Text.Breaks

/-!
# Line breaks in ICU rules

A collation whose content has no line feed is written with carriage returns as
it is written without them, save for the carriage returns themselves. The
content may have carriage returns of its own.

The writer is run twice, side by side: every piece of the one text corresponds
to a piece of the other, and no piece ends in a line break, so the end of the
text, where trimming looks for a backslash, is the same in both.
-/

set_option autoImplicit false

namespace Tailoring

/-! ## Content without line feeds -/

/-- Neither the text of an item nor its anchor nor a character that it refers to
has a line feed. -/
structure Item.OnOneLine (item : Item) : Prop where
  text : lineFeed ∉ item.text
  references : ∀ digits ∈ item.codePoints, ∀ characters,
    Reference.codePoint digits = .ok characters → lineFeed ∉ characters
  anchor : ∀ name, item.anchor = some name → lineFeed ∉ name

/-- Nothing that a collation is written with has a line feed: no value of a
setting and no variable top, no option, no item and no part of an item. -/
structure Collation.OnOneLine (collation : Collation) : Prop where
  values : ∀ setting ∈ collation.settings.getD [], lineFeed ∉ setting.2
  variableTops : ∀ setting ∈ collation.settings.getD [], setting.1 = Setting.topName →
    ∀ top, Reference.sequence setting.2 = .ok top → lineFeed ∉ top
  suppressContractions : ∀ value, collation.suppressContractions = some value → lineFeed ∉ value
  optimize : ∀ value, collation.optimize = some value → lineFeed ∉ value
  items : ∀ item ∈ collation.rules.getD [], item.OnOneLine
  parts : ∀ item ∈ collation.rules.getD [], ∀ part ∈ item.children, part.OnOneLine

theorem Literal.mem_of_mem_writeFrom {c : CodePoint} (other : c ≠ apostrophe) {inSpan : Bool}
    {t : Text} : c ∈ writeFrom 0 inSpan t → c ∈ t := by
  have notClosing : ∀ inSpan, c ∉ closing inSpan := by
    intro inSpan
    cases inSpan with
    | false => exact List.not_mem_nil
    | true => simpa [closing] using other
  induction inSpan, t using scan_induction with
  | nil inSpan => exact fun member => absurd member (notClosing inSpan)
  | escape inSpan d e rest escapes ih =>
      rw [writeFrom_escape rest escapes]
      intro member
      simp only [List.mem_append, notClosing, List.mem_cons, false_or] at member ⊢
      exact member.imp_right (Or.imp_right ih)
  | unicode inSpan escape rest valid ih =>
      rw [writeFrom_unicode inSpan rest valid]
      intro member
      simp only [List.mem_append, notClosing, false_or] at member ⊢
      exact member.imp_right ih
  | plain inSpan d rest plain ih =>
      rw [writeFrom_plain plain]
      intro member
      rcases List.mem_append.mp member with written | later
      · refine List.mem_cons.mpr (.inl ?_)
        unfold writeScalar at written
        split at written
        · split at written
          · simp [other] at written
          · split at written <;> simpa [Scalar.text, other] using written
        · simpa [notClosing, Scalar.text] using written
      · exact .tail _ (ih later)

theorem Literal.not_mem_ofText {t : Text} (unbroken : lineFeed ∉ t) : lineFeed ∉ ofText t :=
  fun member => unbroken (mem_of_mem_writeFrom (by decide) member)

theorem Anchor.not_mem_position {name : Text} (unbroken : lineFeed ∉ name) :
    lineFeed ∉ position name := by
  unfold position
  split
  · decide
  split
  · decide
  · have replaced : lineFeed ∉ Text.replace '_' ' ' name := by
      intro member
      obtain ⟨c, present, same⟩ := List.mem_map.mp member
      split at same
      · exact absurd same (by decide)
      · exact unbroken (same ▸ present)
    have opening : lineFeed ∉ ("[" : Text) := by decide
    have closing : lineFeed ∉ ("]" : Text) := by decide
    simp only [List.mem_append, opening, replaced, closing, or_self, not_false_eq_true]

namespace Item

theorem OnOneLine.data {item : Item} {data : Text} (oneLine : item.OnOneLine)
    (read : item.data = .ok data) : lineFeed ∉ data := by
  obtain ⟨referenced, decoded, read⟩ := Outcome.bind_eq_ok_iff.mp read
  cases read
  split
  · exact oneLine.text
  · intro member
    obtain ⟨characters, listed, member⟩ := List.mem_flatten.mp member
    obtain ⟨digits, given, spelled⟩ :=
      Outcome.exists_related (Outcome.mapM_eq_ok_iff.mp decoded) listed
    exact oneLine.references digits given characters spelled member

theorem OnOneLine.literal {item : Item} {datum : Text} (oneLine : item.OnOneLine)
    (read : item.literal = .ok datum) : lineFeed ∉ datum := by
  unfold Item.literal at read
  split at read
  · cases read
  split at read
  · next name anchored =>
      cases read
      exact Anchor.not_mem_position (oneLine.anchor name anchored)
  · obtain ⟨data, decoded, rfl⟩ := Outcome.map_eq_ok_iff.mp read
    exact Literal.not_mem_ofText (oneLine.data decoded)

theorem not_mem_beforeOption {item : Item} {before : Text}
    (option : item.beforeOption = .ok before) : lineFeed ∉ before := by
  cases beforeForm option with
  | absent => exact List.not_mem_nil
  | @present digit isDigit =>
      have other : lineFeed ≠ digit := by
        rintro rfl
        exact absurd isDigit (by decide)
      have spelled : lineFeed ∉ ("before " : Text) ∧ lineFeed ∉ ("[" : Text) ∧
          lineFeed ∉ ("]" : Text) ∧ lineFeed ∉ (" " : Text) := by decide
      simp only [List.mem_append, List.mem_singleton, spelled, other, or_self, not_false_eq_true]

theorem not_mem_operator (strength : Strength) :
    lineFeed ∉ (" " : Text) ++ strength.operator ++ " " := by
  cases strength <;> decide

theorem not_mem_extendBody {body body' : Text} {part : Item} (oneLine : part.OnOneLine)
    (unbroken : lineFeed ∉ body) (extended : extendBody body part = .ok body') :
    lineFeed ∉ body' := by
  have signs : lineFeed ∉ (" | " : Text) ∧ lineFeed ∉ (" / " : Text) := by decide
  unfold extendBody at extended
  split at extended
  · obtain ⟨datum, read, rfl⟩ := Outcome.map_eq_ok_iff.mp extended
    simp only [List.mem_append, unbroken, oneLine.literal read, signs, or_self, not_false_eq_true]
  · obtain ⟨datum, read, rfl⟩ := Outcome.map_eq_ok_iff.mp extended
    simp only [List.mem_append, unbroken, oneLine.literal read, signs, or_self, not_false_eq_true]
  · next strength _ =>
      obtain ⟨datum, read, rfl⟩ := Outcome.map_eq_ok_iff.mp extended
      have operator := not_mem_operator strength
      rw [List.mem_append, List.mem_append, not_or, not_or]
      exact ⟨⟨operator, unbroken⟩, oneLine.literal read⟩
  · cases extended

theorem not_mem_foldlM_extendBody {body body' : Text} {parts : List Item}
    (oneLine : ∀ part ∈ parts, part.OnOneLine) (unbroken : lineFeed ∉ body)
    (extended : parts.foldlM extendBody body = .ok body') : lineFeed ∉ body' := by
  induction parts generalizing body with
  | nil =>
      cases extended
      exact unbroken
  | cons part parts ih =>
      rw [List.foldlM_cons] at extended
      obtain ⟨between, first, rest⟩ := Outcome.bind_eq_ok_iff.mp extended
      exact ih (fun later member => oneLine later (.tail _ member))
        (not_mem_extendBody (oneLine part (by simp)) unbroken first) rest

end Item

/-! ## ICU rules -/

namespace IcuRules

open Text (Rebroken withReturns)

/-- The last code point has a backslash before it and is none itself. -/
def EndsEscaped (rules : Text) : Prop :=
  rules.dropLast.getLast? = some backslash ∧ rules.getLast? ≠ some backslash

theorem endsEscaped_concat {front : Text} {c : CodePoint} :
    EndsEscaped (front ++ [c]) ↔ front.getLast? = some backslash ∧ c ≠ backslash := by
  simp [EndsEscaped]

theorem lastIndexOf?_backslash_iff {rules : Text} :
    Text.lastIndexOf? [backslash] rules = some (rules.length - 2) ∧ 2 ≤ rules.length ↔
      EndsEscaped rules := by
  rcases List.eq_nil_or_concat rules with rfl | ⟨front, c, rfl⟩
  · simp [EndsEscaped]
  rw [List.concat_eq_append, endsEscaped_concat]
  rcases List.eq_nil_or_concat front with rfl | ⟨front, b, rfl⟩
  · simp
  simp only [List.concat_eq_append, List.length_append, List.length_singleton,
    List.getLast?_append, List.getLast?_singleton, Option.some_or, Option.some.injEq]
  constructor
  · rintro ⟨found, -⟩
    constructor
    · simpa using Text.getElem?_of_lastIndexOf? found
    · rintro rfl
      have alone : Text.lastIndexOf? [backslash] [backslash] = some 0 := by decide
      rw [Text.lastIndexOf?_append alone] at found
      simp at found
  · rintro ⟨rfl, other⟩
    have absent : backslash ∉ ([] : Text) ++ [c] := by simpa using other.symm
    have found := Text.lastIndexOf?_at_end absent front
    exact ⟨by simpa using found, by omega⟩

instance (rules : Text) : Decidable (EndsEscaped rules) :=
  inferInstanceAs (Decidable (_ ∧ _))

theorem trim_eq (rules : Text) :
    trim rules = if EndsEscaped rules then rules.trimStart else Text.trim rules := by
  simp only [trim, lastIndexOf?_backslash_iff]

theorem endsEscaped_withReturns {rules : Text} (goesOn : rules.getLast? ≠ some lineFeed) :
    EndsEscaped (withReturns rules) ↔ EndsEscaped rules := by
  rcases List.eq_nil_or_concat rules with rfl | ⟨front, c, rfl⟩
  · rfl
  · have other : c ≠ lineFeed := by simpa using goesOn
    have alone : withReturns [c] = [c] := by simp [Text.returned_of_ne other]
    rw [List.concat_eq_append, Text.withReturns_append, alone, endsEscaped_concat,
      endsEscaped_concat, Text.getLast?_withReturns]

theorem trim_of_rebroken {short long : Text} (rebroken : Rebroken short long) :
    trim long = withReturns (trim short) := by
  obtain ⟨rfl, goesOn⟩ := rebroken
  rw [trim_eq, trim_eq]
  by_cases escaped : EndsEscaped short
  · rw [if_pos escaped, if_pos ((endsEscaped_withReturns goesOn).mpr escaped),
      Text.trimStart_withReturns]
  · rw [if_neg escaped, if_neg fun same => escaped ((endsEscaped_withReturns goesOn).mp same),
      Text.trim_withReturns]

end IcuRules

open Text (Rebroken withReturns)

/-- No text of a clause has a line feed; the line break before a reset is not part
of the clause. -/
inductive Clause.OnOneLine : Clause → Prop where
  | reset {before datum} : lineFeed ∉ before → lineFeed ∉ datum → OnOneLine (.reset before datum)
  | relation {strength datum} : lineFeed ∉ datum → OnOneLine (.relation strength datum)
  | extended {body} : lineFeed ∉ body → OnOneLine (.extended body)

theorem Clause.OnOneLine.rebroken {clause : Clause} (oneLine : clause.OnOneLine) :
    Rebroken (clause.text "\n") (clause.text "\r\n") := by
  cases oneLine with
  | @reset before datum unbroken unbrokenDatum =>
      have sign : lineFeed ∉ ("& " : Text) ++ before := by
        rw [List.mem_append, not_or]
        exact ⟨by decide, unbroken⟩
      have line := Rebroken.newLine (by simp [Text.ofString]) sign
      simp only [Clause.text, Clause.lead, Clause.datum?, Option.getD_some, List.append_assoc]
        at line ⊢
      simpa using line.append (.of_not_mem unbrokenDatum)
  | @relation strength datum unbroken =>
      exact (Rebroken.of_not_mem (Item.not_mem_operator strength)).append (.of_not_mem unbroken)
  | @extended body unbroken => exact (Rebroken.of_not_mem unbroken).append .nil

theorem VariableTop.not_mem_take (pending : Option Text) (datum : Text) :
    lineFeed ∉ (VariableTop.take pending datum).1 := by
  unfold VariableTop.take
  split
  · decide
  · exact List.not_mem_nil

/-- The line break does not matter for what is pending. -/
theorem IcuRules.rebroken_write {clauses : List Clause} (pending : Option Text)
    (oneLine : ∀ clause ∈ clauses, clause.OnOneLine) :
    Rebroken (write "\n" pending clauses).1 (write "\r\n" pending clauses).1 ∧
      (write "\r\n" pending clauses).2 = (write "\n" pending clauses).2 := by
  induction clauses generalizing pending with
  | nil => exact ⟨.nil, rfl⟩
  | cons clause clauses ih =>
      rw [write_cons, write_cons]
      have first := (oneLine clause (by simp)).rebroken
      have marked : lineFeed ∉ (clause.datum?.elim ([], pending) (VariableTop.take pending)).1 := by
        cases clause.datum? with
        | none => exact List.not_mem_nil
        | some datum => exact VariableTop.not_mem_take pending datum
      obtain ⟨rest, same⟩ := ih (clause.datum?.elim ([], pending) (VariableTop.take pending)).2
        fun later member => oneLine later (.tail _ member)
      exact ⟨(first.append (.of_not_mem marked)).append rest, same⟩

theorem Item.Emits.onOneLine {item : Item} {clauses : List Clause} (emits : item.Emits clauses)
    (oneLine : item.OnOneLine) (parts : ∀ part ∈ item.children, part.OnOneLine) :
    ∀ clause ∈ clauses, clause.OnOneLine := by
  cases emits with
  | reset _ option read =>
      simpa using Clause.OnOneLine.reset (not_mem_beforeOption option) (oneLine.literal read)
  | relation _ read => simpa using Clause.OnOneLine.relation (oneLine.literal read)
  | sequence _ _ read =>
      intro clause member
      obtain ⟨s, listed, rfl⟩ := List.mem_map.mp member
      rw [Literal.ofScalar_eq_ofText (Text.wellFormed_of_mem_scalars listed)]
      have unbroken : lineFeed ∉ s.text := fun inside =>
        oneLine.data read (Text.mem_of_mem_scalars listed inside)
      exact .relation (Literal.not_mem_ofText unbroken)
  | extended _ gathered =>
      simpa using Clause.OnOneLine.extended
        (not_mem_foldlM_extendBody parts List.not_mem_nil gathered)

namespace Setting

theorem not_mem_of_lookup {table : List (Text × Text)} {value spelling : Text}
    (unbroken : ∀ entry ∈ table, lineFeed ∉ entry.2) (found : table.lookup value = some spelling) :
    lineFeed ∉ spelling := by
  obtain ⟨front, back, split, _⟩ := List.lookup_eq_some_iff.mp found
  exact unbroken (value, spelling) (by simp [split])

theorem not_mem_of_read {name value name' value' : Text} (unbroken : lineFeed ∉ value)
    (said : read name value = .ok (.directive name' value')) :
    lineFeed ∉ name' ∧ lineFeed ∉ value' := by
  have verbatimUnbroken : ∀ name ∈ verbatim, lineFeed ∉ name := by decide
  unfold read at said
  split at said
  · next listed =>
      cases said
      exact ⟨verbatimUnbroken name (by simpa using listed), unbroken⟩
  split at said
  · split at said
    · next found =>
        cases said
        exact ⟨by decide, not_mem_of_lookup (by decide) found⟩
    · cases said
  split at said
  · split at said
    · next found =>
        cases said
        exact ⟨by decide, not_mem_of_lookup (by decide) found⟩
    · cases said
  split at said
  · cases said
    exact ⟨by decide, unbroken⟩
  split at said
  · obtain ⟨top, _, same⟩ := Outcome.map_eq_ok_iff.mp said
    cases same
  · cases said

theorem rebroken_directive {name value : Text} (unbroken : lineFeed ∉ name ∧ lineFeed ∉ value) :
    Rebroken ("\n" ++ "[" ++ name ++ " " ++ value ++ "]")
      ("\r\n" ++ "[" ++ name ++ " " ++ value ++ "]") := by
  have signs : lineFeed ∉ ("[" : Text) ∧ lineFeed ∉ (" " : Text) ∧ lineFeed ∉ ("]" : Text) := by
    decide
  have line : lineFeed ∉ "[" ++ (name ++ (" " ++ (value ++ "]"))) := by
    simp only [List.mem_append, signs, unbroken, or_self, not_false_eq_true]
  simpa only [List.append_assoc] using Rebroken.newLine (by simp [Text.ofString]) line

theorem Reads.rebroken {given : List (Text × Text)} {settings : List Setting}
    (reads : Reads given settings) (unbroken : ∀ setting ∈ given, lineFeed ∉ setting.2) :
    Rebroken (renderAll "\n" settings) (renderAll "\r\n" settings) := by
  apply Rebroken.flatMap
  intro setting listed
  obtain ⟨pair, member, said⟩ := Outcome.exists_related reads listed
  cases setting with
  | directive name value =>
      exact rebroken_directive (not_mem_of_read (unbroken pair member) said)
  | variableTop target => exact .nil
  | unsupported name => exact .nil

theorem Reads.not_mem_lastTarget? {given : List (Text × Text)} {settings : List Setting}
    {target : Text} (reads : Reads given settings)
    (unbroken : ∀ setting ∈ given, setting.1 = topName →
      ∀ top, Reference.sequence setting.2 = .ok top → lineFeed ∉ top)
    (last : Setting.lastTarget? settings = some target) : lineFeed ∉ target := by
  obtain ⟨pair, member, top, decoded, rfl⟩ :=
    Outcome.exists_related reads.targets (List.mem_of_getLast? last)
  obtain ⟨given, named⟩ := List.mem_filter.mp member
  exact Literal.not_mem_ofText (unbroken pair given (by simpa using named) top decoded)

end Setting

theorem VariableTop.rebroken_fallback {pending : Option Text}
    (unbroken : ∀ target, pending = some target → lineFeed ∉ target) :
    Rebroken (fallback "\n" pending) (fallback "\r\n" pending) := by
  cases pending with
  | none => exact .nil
  | some target =>
      have signs : lineFeed ∉ ("&" : Text) ∧ lineFeed ∉ marker := by decide
      have line : lineFeed ∉ "&" ++ (target ++ marker) := by
        simp only [List.mem_append, signs, unbroken target rfl, or_self, not_false_eq_true]
      simpa only [fallback, List.append_assoc] using
        Rebroken.newLine (by simp [Text.ofString]) line

theorem VariableTop.pending_of_take {pending : Option Text} {datum target : Text}
    (left : (VariableTop.take pending datum).2 = some target) : pending = some target := by
  unfold VariableTop.take at left
  split at left
  · cases left
  · exact left

theorem IcuRules.pending_of_write {newline target : Text} {pending : Option Text}
    {clauses : List Clause} (left : (write newline pending clauses).2 = some target) :
    pending = some target := by
  induction clauses generalizing pending with
  | nil => exact left
  | cons clause clauses ih =>
      rw [write_cons] at left
      have before := ih left
      cases datum : clause.datum? with
      | none => simpa [datum] using before
      | some value => exact VariableTop.pending_of_take (by simpa [datum] using before)

namespace Collation

theorem rebroken_optionDirectives {collation : Collation} (oneLine : collation.OnOneLine) :
    Rebroken (collation.optionDirectives "\n") (collation.optionDirectives "\r\n") := by
  have labels : ∀ option : OptionName, lineFeed ∉ option.label := by
    intro option
    cases option <;> decide
  apply Rebroken.append
  · cases given : collation.suppressContractions with
    | none => exact .nil
    | some value =>
        exact Setting.rebroken_directive ⟨labels _, oneLine.suppressContractions value given⟩
  · cases given : collation.optimize with
    | none => exact .nil
    | some value => exact Setting.rebroken_directive ⟨labels _, oneLine.optimize value given⟩

theorem icuRules_withReturns {collation : Collation} (oneLine : collation.OnOneLine) :
    collation.icuRules "\r\n" = (collation.icuRules "\n").map withReturns := by
  unfold icuRules
  cases said : collation.readSettings with
  | error fault => rfl
  | ok settings =>
      cases emitted : collation.clauses with
      | error fault => rfl
      | ok clauses =>
          have reads := Setting.readAll_eq_ok_iff.mp said
          have clausesOnOneLine : ∀ clause ∈ clauses, clause.OnOneLine := by
            obtain ⟨parts, emits, rfl⟩ := Item.clausesOfAll_eq_ok_iff.mp emitted
            intro clause member
            obtain ⟨part, listed, member⟩ := List.mem_flatten.mp member
            obtain ⟨item, given, emits⟩ := Outcome.exists_related emits listed
            exact emits.onOneLine (oneLine.items item given) (oneLine.parts item given) clause member
          obtain ⟨body, same⟩ :=
            IcuRules.rebroken_write (Setting.lastTarget? settings) clausesOnOneLine
          have unplaced : ∀ target,
              (IcuRules.write "\n" (Setting.lastTarget? settings) clauses).2 = some target →
                lineFeed ∉ target := fun target left =>
            reads.not_mem_lastTarget? oneLine.variableTops (IcuRules.pending_of_write left)
          have fallback := VariableTop.rebroken_fallback unplaced
          have whole := (((reads.rebroken oneLine.values).append fallback).append
            (rebroken_optionDirectives oneLine)).append body
          refine congrArg Except.ok ?_
          simp only [same]
          exact IcuRules.trim_of_rebroken whole

end Collation

end Tailoring

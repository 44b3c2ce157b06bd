import Tailoring.Proofs.IcuRules.Entry
import Tailoring.Proofs.Text.Layout

/-!
# ICU rules say one thing

The text of plain entries can be taken apart again in one way only: quoted data
is never mistaken for an operator, a bracket or a separator. Trimming loses
nothing, since the first entry tells what stood before it and no entry ends in a
blank.
-/

set_option autoImplicit false

namespace Tailoring

open Literal (Stops)

/-! ## Plain data -/

inductive Datum.Plain : Datum → Prop where
  | characters {data} : Literal.Plain data → Datum.Plain (.characters data)
  | position {name : Text} :
      (∀ c ∈ name, c.isLetter = true ∨ c = space) →
      Datum.Plain (.position ("[" ++ name ++ "]"))

/-- What a reset can have before its datum: nothing, or a digit in brackets. -/
inductive BeforeForm : Text → Prop where
  | absent : BeforeForm []
  | present {digit : CodePoint} :
      digit.isDigit = true → BeforeForm ("[" ++ ("before " ++ [digit]) ++ "]" ++ " ")

theorem not_mem_before {digit : CodePoint} (isDigit : digit.isDigit = true) :
    (']' : CodePoint) ∉ ("before " : Text) ++ [digit] := by
  intro member
  rcases List.mem_append.mp member with inside | last
  · exact absurd inside (by decide)
  · rw [← List.mem_singleton.mp last] at isDigit
    exact absurd isDigit (by decide)

inductive Entry.Plain : Entry → Prop where
  | reset {before datum} :
      BeforeForm before → Datum.Plain datum → Entry.Plain (.reset before datum)
  | relation {strength context datum extension} :
      (∀ part ∈ context, Datum.Plain part) → Datum.Plain datum →
      (∀ part ∈ extension, Datum.Plain part) →
      Entry.Plain (.relation strength context datum extension)

theorem Anchor.plain_position {name : Text}
    (spelled : ∀ c ∈ name, c.isLetter = true ∨ c = ('_' : CodePoint)) :
    Datum.Plain (.position (Anchor.position name)) := by
  unfold Anchor.position
  split
  · have letters : (("first regular" : Text).all fun c => c.isLetter || c == space) = true := by
      decide
    have plain : ∀ c ∈ ("first regular" : Text), c.isLetter = true ∨ c = space := by
      simpa using letters
    exact .position plain
  split
  · have letters : (("last regular" : Text).all fun c => c.isLetter || c == space) = true := by
      decide
    have plain : ∀ c ∈ ("last regular" : Text), c.isLetter = true ∨ c = space := by
      simpa using letters
    exact .position plain
  · apply Datum.Plain.position
    intro c member
    obtain ⟨old, present, rfl⟩ := List.mem_map.mp member
    rcases spelled old present with letter | rfl
    · have other : old ≠ ('_' : CodePoint) := by
        rintro rfl
        exact absurd letter (by decide)
      rw [if_neg other]
      exact .inl letter
    · rw [if_pos rfl]
      exact .inr rfl

namespace Item

theorem PlainDatum.plain {item : Item} {datum : Datum} (plain : PlainDatum item datum) :
    datum.Plain := by
  cases plain with
  | anchor _ spelled => exact Anchor.plain_position spelled
  | data _ _ plain => exact .characters plain

theorem PlainPart.plain {role : Role} {parts : List Item} {datum : Option Datum}
    (plain : PlainPart role parts datum) : ∀ part ∈ datum, part.Plain := by
  cases plain with
  | absent => simp
  | present _ plain => simpa using plain.plain

theorem beforeForm {item : Item} {before : Text} (option : item.beforeOption = .ok before) :
    BeforeForm before := by
  unfold beforeOption at option
  split at option
  · cases option
    exact .absent
  · cases option
    exact .absent
  · split at option
    · next found =>
        cases option
        obtain ⟨_, _, table, _⟩ := List.lookup_eq_some_iff.mp found
        have listed : before ∈ beforeOptions.map (·.2) := by simp [table]
        simp only [beforeOptions, List.map_cons, List.map_nil, List.mem_cons, List.not_mem_nil,
          or_false] at listed
        rcases listed with rfl | rfl | rfl
        · exact .present (show ('1' : CodePoint).isDigit = true by decide)
        · exact .present (show ('2' : CodePoint).isDigit = true by decide)
        · exact .present (show ('3' : CodePoint).isDigit = true by decide)
    · cases option

theorem Lists.plain {item : Item} {entries : List Entry} (lists : Lists item entries) :
    ∀ entry ∈ entries, entry.Plain := by
  cases lists with
  | reset _ before plain =>
      simpa using Entry.Plain.reset (beforeForm before) plain.plain
  | relation _ plain => simpa using Entry.Plain.relation (by simp) plain.plain (by simp)
  | sequence _ _ _ plain =>
      intro entry member
      obtain ⟨s, present, rfl⟩ := List.mem_map.mp member
      refine .relation (by simp) (.characters ⟨s.text_ne_nil, ?_, ?_⟩) (by simp)
      · exact fun quote => plain.noApostrophe (Text.mem_of_mem_scalars present quote)
      · exact fun escape => plain.noBackslash (Text.mem_of_mem_scalars present escape)
  | extended _ _ contextPlain _ relationPlain extensionPlain =>
      simpa using Entry.Plain.relation contextPlain.plain relationPlain.plain extensionPlain.plain

end Item

theorem Collation.Lists.plain {collation : Collation} {entries : List Entry}
    (lists : collation.Lists entries) : ∀ entry ∈ entries, entry.Plain := by
  obtain ⟨parts, listed, rfl⟩ := lists.listed
  intro entry member
  obtain ⟨part, partOf, member⟩ := List.mem_flatten.mp member
  obtain ⟨item, _, lists⟩ := Outcome.exists_related listed partOf
  exact lists.plain entry member

/-! ## Taking apart -/

/-- Two bracketed names, neither with a closing bracket in it. -/
theorem bracketed_cancel {name name' x y : Text} (closed : (']' : CodePoint) ∉ name)
    (closed' : (']' : CodePoint) ∉ name')
    (same : "[" ++ (name ++ ("]" ++ x)) = "[" ++ (name' ++ ("]" ++ y))) :
    name = name' ∧ x = y :=
  Text.append_cons_cancel closed closed' (List.append_cancel_left same)

theorem not_mem_of_letters {name : Text} (letters : ∀ c ∈ name, c.isLetter = true ∨ c = space)
    {c : CodePoint} (notLetter : c.isLetter = false) (notSpace : c ≠ space) : c ∉ name := by
  intro member
  rcases letters c member with letter | rfl
  · rw [notLetter] at letter
    cases letter
  · exact notSpace rfl

/-- Escaped characters never look like a bracket. -/
theorem literal_append_ne_bracket {data x y : Text} (plain : Literal.Plain data) :
    Literal.ofText data ++ x ≠ "[" ++ y := by
  intro same
  obtain ⟨c, rest, starts, free⟩ := plain.head_ofText
  rw [starts] at same
  obtain rfl : c = ('[' : CodePoint) := (List.cons.inj same).1
  exact absurd free (by decide)

namespace Datum

theorem Plain.append_cancel {datum datum' : Datum} {x y : Text} (plain : datum.Plain)
    (plain' : datum'.Plain) (stops : Stops x) (stops' : Stops y)
    (same : datum.literal ++ x = datum'.literal ++ y) : datum = datum' ∧ x = y := by
  cases plain with
  | characters plain =>
      cases plain' with
      | characters plain' =>
          obtain ⟨literals, rest⟩ := Literal.literal_append_cancel plain.isSome_read?
            plain'.isSome_read? stops stops' same
          rw [plain.ofText_injective plain' literals]
          exact ⟨rfl, rest⟩
      | position _ =>
          simp only [literal, List.append_assoc] at same
          exact absurd same (literal_append_ne_bracket plain)
  | position letters =>
      cases plain' with
      | characters plain' =>
          simp only [literal, List.append_assoc] at same
          exact absurd same.symm (literal_append_ne_bracket plain')
      | position letters' =>
          simp only [literal, List.append_assoc] at same
          obtain ⟨rfl, rest⟩ := bracketed_cancel
            (not_mem_of_letters letters (by decide) (by decide))
            (not_mem_of_letters letters' (by decide) (by decide)) same
          exact ⟨rfl, rest⟩

/-- No position is spelled like what a reset lies before: that has a digit. -/
theorem Plain.append_ne_before {datum : Datum} {digit : CodePoint} {x y : Text}
    (plain : datum.Plain) (isDigit : digit.isDigit = true) :
    datum.literal ++ x ≠ "[" ++ (("before " ++ [digit]) ++ ("]" ++ y)) := by
  intro same
  cases plain with
  | characters plain => exact literal_append_ne_bracket plain same
  | @position name letters =>
      rw [literal, List.append_assoc, List.append_assoc] at same
      obtain ⟨rfl, _⟩ := bracketed_cancel
        (not_mem_of_letters letters (by decide) (by decide)) (not_mem_before isDigit) same
      rcases letters digit (by simp) with letter | rfl
      · simp only [CodePoint.isDigit, CodePoint.isLetter, decide_eq_true_eq] at isDigit letter
        omega
      · exact absurd isDigit (by decide)

end Datum

/-- The rules are at their end or go on with an entry. -/
def Boundary (newline t : Text) : Prop :=
  t = [] ∨ ∃ entry rest, t = Entry.text newline entry ++ rest

theorem stops_of_space {t : Text} (head : t.head? = some space) : Stops t := by
  intro c head'
  rw [head] at head'
  obtain rfl : space = c := Option.some.inj head'
  decide

theorem LineBreak.stops {newline : Text} (lineBreak : LineBreak newline) (t : Text) :
    Stops (newline ++ t) := by
  intro c head
  rcases lineBreak with rfl | rfl
  · obtain rfl : ('\n' : CodePoint) = c := Option.some.inj head
    decide
  · obtain rfl : ('\r' : CodePoint) = c := Option.some.inj head
    decide

theorem Boundary.stops {newline t : Text} (lineBreak : LineBreak newline)
    (boundary : Boundary newline t) : Stops t := by
  rcases boundary with rfl | ⟨entry, rest, rfl⟩
  · exact Literal.stops_nil
  · cases entry with
    | reset before datum =>
        simpa only [Entry.text, List.append_assoc] using lineBreak.stops _
    | relation strength context datum extension =>
        exact stops_of_space rfl

/-- No entry starts like a context or an extension goes on. -/
theorem Boundary.ne_separator {newline t x : Text} {mark : CodePoint}
    (lineBreak : LineBreak newline) (boundary : Boundary newline t)
    (separates : mark = ('|' : CodePoint) ∨ mark = ('/' : CodePoint)) :
    t ≠ " " ++ mark :: x := by
  rcases boundary with rfl | ⟨entry, rest, rfl⟩
  · intro same
    cases same
  · cases entry with
    | reset before datum =>
        simpa only [Entry.text, List.append_assoc] using lineBreak.append_ne_space _ _
    | relation strength context datum extension =>
        intro same
        simp only [Entry.text, List.append_assoc] at same
        have same := List.append_cancel_left same
        rcases separates with rfl | rfl <;> cases strength <;>
          exact absurd (List.cons.inj same).1 (by decide)

theorem operator_append_cancel {strength strength' : Strength} {x y : Text}
    (same : strength.operator ++ (" " ++ x) = strength'.operator ++ (" " ++ y)) :
    strength = strength' ∧ x = y := by
  cases strength <;> cases strength' <;>
    simp_all [Strength.operator, Text.ofString, CodePoint.ofChar]

theorem BeforeForm.append_cancel {before before' x y : Text} {datum datum' : Datum}
    (form : BeforeForm before) (form' : BeforeForm before') (plain : datum.Plain)
    (plain' : datum'.Plain)
    (same : before ++ (datum.literal ++ x) = before' ++ (datum'.literal ++ y)) :
    before = before' ∧ datum.literal ++ x = datum'.literal ++ y := by
  cases form with
  | absent =>
      cases form' with
      | absent => exact ⟨rfl, same⟩
      | present isDigit => exact absurd same (plain.append_ne_before isDigit)
  | present isDigit =>
      cases form' with
      | absent => exact absurd same.symm (plain'.append_ne_before isDigit)
      | present isDigit' =>
          obtain ⟨names, rest⟩ :=
            bracketed_cancel (not_mem_before isDigit) (not_mem_before isDigit') same
          rw [names]
          exact ⟨rfl, (List.cons.inj rest).2⟩

namespace Datum

theorem stops_asExtension {newline x : Text} (lineBreak : LineBreak newline)
    (boundary : Boundary newline x) (extension : Option Datum) :
    Stops (asExtension extension ++ x) := by
  cases extension with
  | none => exact boundary.stops lineBreak
  | some datum => exact stops_of_space rfl

theorem asExtension_cancel {newline x y : Text} {extension extension' : Option Datum}
    (lineBreak : LineBreak newline) (boundary : Boundary newline x)
    (boundary' : Boundary newline y) (plain : ∀ part ∈ extension, part.Plain)
    (plain' : ∀ part ∈ extension', part.Plain)
    (same : asExtension extension ++ x = asExtension extension' ++ y) :
    extension = extension' ∧ x = y := by
  cases extension with
  | none =>
      cases extension' with
      | none => exact ⟨rfl, same⟩
      | some datum' => exact absurd same (boundary.ne_separator lineBreak (.inr rfl))
  | some datum =>
      cases extension' with
      | none => exact absurd same.symm (boundary'.ne_separator lineBreak (.inr rfl))
      | some datum' =>
          simp only [asExtension, List.append_assoc] at same
          obtain ⟨rfl, rest⟩ := (plain datum rfl).append_cancel (plain' datum' rfl)
            (boundary.stops lineBreak) (boundary'.stops lineBreak) (List.append_cancel_left same)
          exact ⟨rfl, rest⟩

/-- After the operator a context is told from a datum by what follows it. -/
theorem asContext_cancel {newline x y : Text} {context context' extension extension' : Option Datum}
    {datum datum' : Datum} (lineBreak : LineBreak newline) (boundary : Boundary newline x)
    (boundary' : Boundary newline y) (plainContext : ∀ part ∈ context, part.Plain)
    (plainContext' : ∀ part ∈ context', part.Plain) (plain : datum.Plain)
    (plain' : datum'.Plain)
    (same : asContext context ++ (datum.literal ++ (asExtension extension ++ x)) =
      asContext context' ++ (datum'.literal ++ (asExtension extension' ++ y))) :
    context = context' ∧
      datum.literal ++ (asExtension extension ++ x) =
        datum'.literal ++ (asExtension extension' ++ y) := by
  have unlike : ∀ {z t : Text} {extension : Option Datum}, Boundary newline t →
      " | " ++ z ≠ asExtension extension ++ t := by
    intro z t extension boundary same
    cases extension with
    | none => exact boundary.ne_separator lineBreak (.inl rfl) same.symm
    | some part => exact absurd (List.cons.inj (List.cons.inj same).2).1 (by decide)
  cases context with
  | none =>
      cases context' with
      | none => exact ⟨rfl, same⟩
      | some part' =>
          simp only [asContext, List.append_assoc] at same
          have rest := (plain.append_cancel (plainContext' part' rfl)
            (stops_asExtension lineBreak boundary extension) (stops_of_space rfl) same).2
          exact absurd rest.symm (unlike boundary)
  | some part =>
      cases context' with
      | none =>
          simp only [asContext, List.append_assoc] at same
          have rest := ((plainContext part rfl).append_cancel plain' (stops_of_space rfl)
            (stops_asExtension lineBreak boundary' extension') same).2
          exact absurd rest (unlike boundary')
      | some part' =>
          simp only [asContext, List.append_assoc] at same
          obtain ⟨rfl, rest⟩ := (plainContext part rfl).append_cancel (plainContext' part' rfl)
            (stops_of_space rfl) (stops_of_space rfl) same
          exact ⟨rfl, List.append_cancel_left rest⟩

end Datum

namespace Entry

/-- One entry is told from what follows it. -/
theorem Plain.append_cancel {newline x y : Text} {entry entry' : Entry}
    (lineBreak : LineBreak newline) (plain : entry.Plain) (plain' : entry'.Plain)
    (boundary : Boundary newline x) (boundary' : Boundary newline y)
    (same : entry.text newline ++ x = entry'.text newline ++ y) : entry = entry' ∧ x = y := by
  cases plain with
  | reset form plain =>
      cases plain' with
      | reset form' plain' =>
          simp only [text, List.append_assoc] at same
          obtain ⟨rfl, data⟩ := form.append_cancel form' plain plain'
            (List.append_cancel_left (List.append_cancel_left same))
          obtain ⟨rfl, rest⟩ := plain.append_cancel plain' (boundary.stops lineBreak)
            (boundary'.stops lineBreak) data
          exact ⟨rfl, rest⟩
      | relation =>
          simp only [text, List.append_assoc] at same
          exact absurd same (lineBreak.append_ne_space _ _)
  | relation plainContext plain plainExtension =>
      cases plain' with
      | reset =>
          simp only [text, List.append_assoc] at same
          exact absurd same.symm (lineBreak.append_ne_space _ _)
      | relation plainContext' plain' plainExtension' =>
          simp only [text, List.append_assoc] at same
          obtain ⟨rfl, operands⟩ := operator_append_cancel (List.append_cancel_left same)
          obtain ⟨rfl, data⟩ := Datum.asContext_cancel lineBreak boundary boundary' plainContext
            plainContext' plain plain' operands
          obtain ⟨rfl, extensions⟩ := plain.append_cancel plain'
            (Datum.stops_asExtension lineBreak boundary _)
            (Datum.stops_asExtension lineBreak boundary' _) data
          obtain ⟨rfl, rest⟩ := Datum.asExtension_cancel lineBreak boundary boundary'
            plainExtension plainExtension' extensions
          exact ⟨rfl, rest⟩

theorem boundary_flatMap (newline : Text) (entries : List Entry) :
    Boundary newline (entries.flatMap (text newline)) := by
  cases entries with
  | nil => exact .inl rfl
  | cons entry entries => exact .inr ⟨entry, _, List.flatMap_cons⟩

theorem text_ne_nil {newline : Text} (entry : Entry) : entry.text newline ≠ [] := by
  cases entry <;> simp [text, Text.ofString]

theorem flatMap_text_injective {newline : Text} {entries entries' : List Entry}
    (lineBreak : LineBreak newline) (plain : ∀ entry ∈ entries, entry.Plain)
    (plain' : ∀ entry ∈ entries', entry.Plain)
    (same : entries.flatMap (text newline) = entries'.flatMap (text newline)) :
    entries = entries' :=
  Text.flatMap_injective_of_cancel text_ne_nil
    (fun valid valid' same => valid.append_cancel lineBreak valid'
      (boundary_flatMap newline _) (boundary_flatMap newline _) same)
    plain plain' same

end Entry

/-! ## Trimming -/

theorem IcuRules.trim_of_solid {t : Text}
    (solid : ∀ c ∈ t.trimStart.getLast?, c.isBlank = false) : trim t = t.trimStart := by
  unfold trim
  split
  · rfl
  · exact Text.trimEnd_of_solid solid

theorem Datum.Plain.endsSolid {datum : Datum} (plain : datum.Plain) :
    EndsSolid datum.literal := by
  cases plain with
  | characters plain =>
      exact Literal.getLast?_writeFrom plain.noApostrophe plain.noBackslash (.inr plain.present)
  | position _ => exact EndsSolid.append ⟨(']' : CodePoint), rfl, by decide⟩ _

namespace Entry

theorem Plain.endsSolid {entry : Entry} (plain : entry.Plain) (newline : Text) :
    EndsSolid (entry.text newline) := by
  cases plain with
  | reset _ plain => exact plain.endsSolid.append _
  | @relation strength context datum extension _ plain plainExtension =>
      cases extension with
      | none =>
          rw [text, Datum.asExtension, List.append_nil]
          exact plain.endsSolid.append _
      | some part =>
          exact ((plainExtension part rfl).endsSolid.append _).append _

/-- Puts back what trimming takes from the start: a line break before a reset, a
space before a relation. -/
def restore (newline : Text) : Text → Text
  | [] => []
  | c :: rest => (if c = ('&' : CodePoint) then newline else [space]) ++ c :: rest

theorem restore_trimStart {newline : Text} (lineBreak : LineBreak newline)
    (entries : List Entry) :
    restore newline (Text.trimStart (entries.flatMap (text newline))) =
      entries.flatMap (text newline) := by
  cases entries with
  | nil => rfl
  | cons entry entries =>
      cases entry with
      | reset before datum =>
          simp only [List.flatMap_cons, text, List.append_assoc]
          rcases lineBreak with rfl | rfl <;> rfl
      | relation strength context datum extension =>
          simp only [List.flatMap_cons, text, List.append_assoc]
          cases strength <;> rfl

theorem trim_flatMap {newline : Text} {entries : List Entry}
    (lineBreak : LineBreak newline) (plain : ∀ entry ∈ entries, entry.Plain) :
    IcuRules.trim (entries.flatMap (text newline)) =
      Text.trimStart (entries.flatMap (text newline)) := by
  apply IcuRules.trim_of_solid
  intro c last
  by_cases present : entries = []
  · subst present
    cases last
  · obtain ⟨c', last', notBlank⟩ :=
      EndsSolid.flatMap (fun entry member => (plain entry member).endsSolid newline) present
    rw [← restore_trimStart lineBreak entries] at last'
    cases trimmed : Text.trimStart (entries.flatMap (text newline)) with
    | nil =>
        rw [trimmed] at last
        cases last
    | cons d rest =>
        rw [trimmed] at last last'
        rw [restore, List.getLast?_append, last] at last'
        cases last'
        exact notBlank

end Entry

/-- Plain collations have ICU rules, and these are the same exactly if the
entries are. -/
theorem Collation.icuRules_unambiguous {newline : Text} {collation collation' : Collation}
    {entries entries' : List Entry} (lineBreak : LineBreak newline)
    (lists : collation.Lists entries) (lists' : collation'.Lists entries') :
    ∃ rules rules', collation.icuRules newline = .ok rules ∧
      collation'.icuRules newline = .ok rules' ∧ (rules = rules' ↔ entries = entries') := by
  refine ⟨_, _, lists.icuRules newline, lists'.icuRules newline, ?_⟩
  constructor
  · intro same
    rw [Entry.trim_flatMap lineBreak lists.plain, Entry.trim_flatMap lineBreak lists'.plain]
      at same
    apply Entry.flatMap_text_injective lineBreak lists.plain lists'.plain
    rw [← Entry.restore_trimStart lineBreak entries, same,
      Entry.restore_trimStart lineBreak entries']
  · rintro rfl
    rfl

/-- A quoted bar is no context, and a sequence is told from a relation with both
its characters. -/
theorem Collation.icuRules_unambiguous_quoted :
    let start : Item :=
      { kind := "reset", before := some "primary", anchor := some "first_non_ignorable" }
    let sequence : Collation := { rules := some [start, { kind := "pc", text := "a|" }] }
    let contextual : Collation :=
      { rules := some [start,
          { kind := "x", children :=
              [{ kind := "context", text := "a" }, { kind := "p", text := "|" }] }] }
    ∃ rules rules', sequence.icuRules "\r\n" = .ok rules ∧
      contextual.icuRules "\r\n" = .ok rules' ∧ rules ≠ rules' := by
  intro start sequence contextual
  have letters : (("first_non_ignorable" : Text).all fun c =>
      c.isLetter || c == ('_' : CodePoint)) = true := by decide
  have spelled : ∀ c ∈ ("first_non_ignorable" : Text),
      c.isLetter = true ∨ c = ('_' : CodePoint) := by simpa using letters
  have startLists : start.Lists [.reset "[before 1] " (.position "[first regular]")] :=
    .reset rfl rfl (.anchor rfl spelled)
  have plain : ∀ data : Text, data ≠ [] ∧ apostrophe ∉ data ∧ backslash ∉ data →
      Literal.Plain data := fun _ facts => ⟨facts.1, facts.2.1, facts.2.2⟩
  have sequenceLists : sequence.Lists
      [.reset "[before 1] " (.position "[first regular]"),
        .relation .primary none (.characters "a") none,
        .relation .primary none (.characters "|") none] :=
    ⟨rfl, rfl, rfl, _,
      .cons startLists (.cons (.sequence rfl rfl rfl (plain _ (by decide))) .nil), rfl⟩
  have contextualLists : contextual.Lists
      [.reset "[before 1] " (.position "[first regular]"),
        .relation .primary (some (.characters "a")) (.characters "|") none] :=
    ⟨rfl, rfl, rfl, _,
      .cons startLists (.cons
        (.extended rfl rfl (.present rfl (.data rfl rfl (plain _ (by decide)))) rfl
          (.data rfl rfl (plain _ (by decide))) .absent) .nil), rfl⟩
  obtain ⟨rules, rules', written, written', same⟩ :=
    icuRules_unambiguous (.inr rfl) sequenceLists contextualLists
  exact ⟨rules, rules', written, written', fun equal => absurd (same.mp equal) (by decide)⟩

end Tailoring

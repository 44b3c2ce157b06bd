import Tailoring.Proofs.IcuRules.Faults
import Tailoring.Proofs.Text.Hex
import Tailoring.Proofs.Text.Search

/-!
# Spelled characters

The references of an item are spelled one by one, and those of a variable top in a
row with the letter `u` between them. Both are decoded alike: the characters that
are spelled are given back, and the first number that is no scalar value is
reported. A spelling that is not hexadecimal is refused, but for a line feed at the
end of one that is.
-/

set_option autoImplicit false

namespace Tailoring

open Outcome (Reports)

namespace Reference

/-- Spelled characters decoded one after another. Where nothing is spelled, there is
none. -/
def decodeAll (element : Text) (spelled : List Text) : Except Fault Text :=
  ((spelled.filter (· ≠ [])).mapM (decode · element)).map List.flatten

theorem sequence_eq_decodeAll (value : Text) :
    sequence value = decodeAll "settings" (Text.splitOn 'u' value) :=
  Outcome.bind_pure_eq_map _ _

theorem mapM_codePoint (spelled : List Text) :
    (spelled.mapM codePoint).map List.flatten = decodeAll "cp" spelled := by
  have joined : ∀ (first : Text) (rest : Except Fault (List Text)),
      (rest >>= fun texts => pure (first :: texts)).map List.flatten =
        (rest.map List.flatten).map (first ++ ·) := by
    rintro first (fault | texts) <;> rfl
  unfold decodeAll
  induction spelled with
  | nil => rfl
  | cons digits spelled ih =>
      rw [List.mapM_cons, codePoint]
      by_cases empty : digits = []
      · rw [if_pos empty, List.filter_cons_of_neg (by simpa using empty), ← ih]
        calc
          _ = ((spelled.mapM codePoint).map List.flatten).map ([] ++ ·) := joined [] _
          _ = (spelled.mapM codePoint).map List.flatten := by
            cases spelled.mapM codePoint <;> rfl
      · rw [if_neg empty, List.filter_cons_of_pos (by simpa using empty), List.mapM_cons]
        cases decode digits "cp" with
        | error fault => rfl
        | ok characters =>
            calc
              _ = ((spelled.mapM codePoint).map List.flatten).map (characters ++ ·) :=
                joined characters _
              _ = _ := by
                rw [ih]
                exact (joined characters _).symm

end Reference

theorem Item.data_eq_decodeAll (item : Item) :
    item.data = (Reference.decodeAll "cp" item.codePoints).map fun characters =>
      if characters = [] then item.text else characters := by
  rw [← Reference.mapM_codePoint, Item.data]
  cases item.codePoints.mapM Reference.codePoint <;> rfl

namespace Reference

/-! ## Decoding of spellings -/

theorem decode_of_spells {digits : Text} {c : CodePoint} (element : Text)
    (spelled : Hex.Spells digits c.val) (scalar : IsScalarValue c.val) :
    decode digits element = .ok [c] := by
  have read : Hex.read? digits = some c.val := Hex.read?_eq_some_iff.mpr (.inl spelled)
  have inRange : 0 ≤ (c.val : Int) ∧ (c.val : Int) ≤ 0x10FFFF ∧
      ¬(0xD800 ≤ (c.val : Int) ∧ (c.val : Int) ≤ 0xDFFF) := by
    unfold IsScalarValue at scalar
    omega
  simp only [decode, number, read, character]
  exact dif_pos inRange

theorem mapM_decode_of_spells {spelled : List Text} {characters : Text} (element : Text)
    (spells : List.Forall₂ (fun digits (c : CodePoint) => Hex.Spells digits c.val) spelled
      characters)
    (scalars : ∀ c ∈ characters, IsScalarValue c.val) :
    spelled.mapM (decode · element) = .ok (characters.map ([·])) := by
  induction spells with
  | nil => rfl
  | cons first _ ih =>
      rw [List.mapM_cons, decode_of_spells element first (scalars _ List.mem_cons_self),
        ih fun c member => scalars c (.tail _ member)]
      rfl

/-- Characters are given back, however they are spelled. -/
theorem decodeAll_of_spells {spelled : List Text} {characters : Text} (element : Text)
    (spells : List.Forall₂ Hex.Spells (spelled.filter (· ≠ [])) (characters.map Fin.val))
    (scalars : ∀ c ∈ characters, IsScalarValue c.val) :
    decodeAll element spelled = .ok characters := by
  rw [List.forall₂_map_right_iff] at spells
  rw [decodeAll, mapM_decode_of_spells element spells scalars, Except.map, ← List.flatMap_def,
    List.flatMap_singleton']

theorem faults_of_spells {digits : Text} {value : Nat} (element : Text)
    (spelled : Hex.Spells digits value) :
    faults element digits = if IsScalarValue value then [] else [.notScalar value element] := by
  rw [faults, Hex.read?_eq_some_iff.mpr (.inl spelled)]

theorem flatMap_faults_of_spells {spelled : List Text} {values : List Nat} (element : Text)
    (spells : List.Forall₂ Hex.Spells spelled values) :
    spelled.flatMap (faults element) =
      (values.filter (¬IsScalarValue ·)).map fun value : Nat => .notScalar value element := by
  induction spells with
  | nil => rfl
  | @cons digits value spelled values first _ ih =>
      rw [List.flatMap_cons, ih, faults_of_spells element first]
      by_cases scalar : IsScalarValue value
      · simp [scalar]
      · simp [scalar]

theorem reports_decodeAll (element : Text) (spelled : List Text) :
    Reports ((spelled.filter (· ≠ [])).flatMap (faults element)) (decodeAll element spelled) :=
  (Reports.mapM fun digits _ => reports_decode digits element).map _

/-- Of several numbers that are no scalar values the first is reported. -/
theorem decodeAll_of_notScalar {spelled : List Text} {values : List Nat} {value : Nat}
    (element : Text) (spells : List.Forall₂ Hex.Spells (spelled.filter (· ≠ [])) values)
    (first : values.find? (¬IsScalarValue ·) = some value) :
    decodeAll element spelled = .error (.notScalar value element) := by
  rw [(reports_decodeAll element spelled).eq_error_iff, flatMap_faults_of_spells element spells,
    List.head?_map, List.head?_filter, first]
  rfl

/-! ## Spellings in a row -/

def introductions (count : Nat) : Text :=
  List.replicate count ('u' : CodePoint)

/-- Spellings in a row, with as many introductions in front of each as are given, and
some more at the end. -/
def row (entries : List (Nat × Text)) (trailing : Nat) : Text :=
  entries.flatMap (fun entry => introductions entry.1 ++ entry.2) ++ introductions trailing

def spelledIn (value : Text) : List Text :=
  (Text.splitOn 'u' value).filter (· ≠ [])

theorem spelledIn_introductions_append (count : Nat) (value : Text) :
    spelledIn (introductions count ++ value) = spelledIn value := by
  induction count with
  | zero => rfl
  | succ count ih =>
      rw [← ih, spelledIn, introductions, List.replicate_succ, List.cons_append, Text.splitOn,
        if_pos rfl]
      exact List.filter_cons_of_neg (by simp)

theorem spelledIn_append {digits value : Text} (present : digits ≠ [])
    (free : ('u' : CodePoint) ∉ digits)
    (apart : value = [] ∨ value.head? = some ('u' : CodePoint)) :
    spelledIn (digits ++ value) = digits :: spelledIn value := by
  rcases apart with rfl | apart
  · rw [spelledIn, Text.splitOn_eq, List.append_nil, List.splitOn_eq_singleton free,
      List.filter_cons_of_pos (by simpa using present)]
    rfl
  · obtain ⟨rest, rfl⟩ := List.head?_eq_some_iff.mp apart
    rw [spelledIn, Text.splitOn_eq, List.splitOn_append_cons_self_of_not_mem free,
      List.filter_cons_of_pos (by simpa using present), ← Text.splitOn_eq]
    exact congrArg _ (spelledIn_introductions_append 1 rest).symm

theorem spelledIn_row {entries : List (Nat × Text)} (trailing : Nat)
    (spelled : ∀ entry ∈ entries, entry.2 ≠ [] ∧ ('u' : CodePoint) ∉ entry.2)
    (introduced : ∀ entry ∈ entries.tail, 0 < entry.1) :
    spelledIn (row entries trailing) = entries.map Prod.snd := by
  induction entries with
  | nil =>
      rw [row, List.flatMap_nil, List.nil_append, ← List.append_nil (introductions trailing),
        spelledIn_introductions_append]
      rfl
  | cons entry entries ih =>
      obtain ⟨present, free⟩ := spelled entry List.mem_cons_self
      -- the rest starts with the introduction of the next spelling, or is the end
      have apart : row entries trailing = [] ∨
          (row entries trailing).head? = some ('u' : CodePoint) := by
        cases entries with
        | nil => cases trailing <;> simp [row, introductions, List.replicate_succ]
        | cons next entries =>
            obtain ⟨count, succ⟩ := Nat.exists_eq_add_of_lt (introduced next List.mem_cons_self)
            right
            rw [row, List.flatMap_cons, succ, introductions, List.replicate_succ]
            rfl
      have split : row (entry :: entries) trailing =
          introductions entry.1 ++ (entry.2 ++ row entries trailing) := by
        simp [row]
      rw [split, spelledIn_introductions_append, spelledIn_append present free apart,
        ih (fun later member => spelled later (.tail _ member))
          (fun later member => introduced later (List.mem_of_mem_tail member))]
      rfl

theorem filter_splitOn_row {entries : List (Nat × Text)} {values : List Nat} (trailing : Nat)
    (spelled : List.Forall₂ Hex.Spells (entries.map Prod.snd) values)
    (introduced : ∀ entry ∈ entries.tail, 0 < entry.1) :
    (Text.splitOn 'u' (row entries trailing)).filter (· ≠ []) = entries.map Prod.snd := by
  refine spelledIn_row trailing (fun entry member => ?_) introduced
  obtain ⟨value, -, spells⟩ :=
    Outcome.exists_related_of_mem spelled (List.mem_map_of_mem member)
  obtain ⟨present, read⟩ := Hex.spells_iff_value?.mp spells
  refine ⟨present, fun introduction => ?_⟩
  exact absurd (Hex.isHexDigit_of_value? read introduction) (by decide)

/-! ## The decoders -/

/-- Characters spelled as the references of an item, or in a row as a variable top,
are given back by both decoders. If some of the numbers are no scalar values, both
report the first of them. Empty references and further introductions do not count, nor
does the text of the item. -/
theorem decoders_give_back_spellings (item : Item) (entries : List (Nat × Text)) (trailing : Nat)
    (values : List Nat) (present : values ≠ [])
    (spelled : List.Forall₂ Hex.Spells (entries.map Prod.snd) values)
    (introduced : ∀ entry ∈ entries.tail, 0 < entry.1)
    (referenced : item.codePoints.filter (· ≠ []) = entries.map Prod.snd) :
    (∀ characters : Text, characters.map Fin.val = values →
        (∀ c ∈ characters, IsScalarValue c.val) →
        item.data = .ok characters ∧ sequence (row entries trailing) = .ok characters) ∧
      ∀ value, values.find? (¬IsScalarValue ·) = some value →
        item.data = .error (.notScalar value "cp") ∧
          sequence (row entries trailing) = .error (.notScalar value "settings") := by
  have inItem := spelled
  rw [← referenced] at inItem
  have inRow := spelled
  rw [← filter_splitOn_row trailing spelled introduced] at inRow
  rw [item.data_eq_decodeAll, sequence_eq_decodeAll]
  constructor
  · rintro characters rfl scalars
    have named : characters ≠ [] := by simpa using present
    rw [decodeAll_of_spells "cp" inItem scalars, decodeAll_of_spells "settings" inRow scalars]
    exact ⟨by simp [Except.map, named], rfl⟩
  · intro value first
    rw [decodeAll_of_notScalar "cp" inItem first, decodeAll_of_notScalar "settings" inRow first]
    exact ⟨rfl, rfl⟩

/-- Letters of both cases and zeros in front; then a surrogate before a number that is
too large. -/
theorem decoders_give_back_spellings_padded :
    (({ kind := "p", text := "-", codePoints := [[], "0041", [], "01f60A"] } : Item).data =
          .ok [0x41, 0x1F60A] ∧
        sequence "0041uu01f60Au" = .ok [0x41, 0x1F60A]) ∧
      ({ kind := "p", codePoints := ["61", "d800", "110000"] } : Item).data =
          .error (.notScalar 0xD800 "cp") ∧
        sequence "u61ud800u110000" = .error (.notScalar 0xD800 "settings") := by
  constructor
  · refine (decoders_give_back_spellings
      { kind := "p", text := "-", codePoints := [[], "0041", [], "01f60A"] }
      [(0, "0041"), (2, "01f60A")] 1 [0x41, 0x1F60A] (by decide) ?_ (by decide)
      (by decide)).1 [0x41, 0x1F60A] (by decide) ?_
    · exact .cons ⟨4, by decide⟩ (.cons ⟨6, by decide⟩ .nil)
    · exact List.forall_mem_cons.mpr ⟨by decide, List.forall_mem_singleton.mpr (by decide)⟩
  · refine (decoders_give_back_spellings { kind := "p", codePoints := ["61", "d800", "110000"] }
      [(1, "61"), (1, "d800"), (1, "110000")] 0 [0x61, 0xD800, 0x110000] (by decide) ?_
      (by decide) (by decide)).2 0xD800 (by simp [IsScalarValue])
    exact .cons ⟨2, by decide⟩ (.cons ⟨4, by decide⟩ (.cons ⟨6, by decide⟩ .nil))

/-! ## What is accepted -/

/-- Nothing but digits, the number of which is a scalar value. -/
def Names (digits : Text) : Prop :=
  ∃ value, Hex.Spells digits value ∧ IsScalarValue value

def NamesBeforeLineFeed (digits : Text) : Prop :=
  ∃ front, digits = front ++ [lineFeed] ∧ Names front

theorem rejects_iff {digits : Text} :
    Rejects digits ↔ ¬Names digits ∧ ¬NamesBeforeLineFeed digits := by
  constructor
  · intro rejected
    refine ⟨?_, ?_⟩
    · rintro ⟨value, spelled, scalar⟩
      exact rejected value (Hex.read?_eq_some_iff.mpr (.inl spelled)) scalar
    · rintro ⟨front, rfl, value, spelled, scalar⟩
      exact rejected value (Hex.read?_eq_some_iff.mpr (.inr ⟨front, rfl, spelled⟩)) scalar
  · rintro ⟨unnamed, unnamedBefore⟩ value read scalar
    rcases Hex.read?_eq_some_iff.mp read with spelled | ⟨front, rfl, spelled⟩
    · exact unnamed ⟨value, spelled, scalar⟩
    · exact unnamedBefore ⟨front, rfl, value, spelled, scalar⟩

/-- A reference is accepted if it is empty or names a character, and a variable top if
each piece between introductions is or does. A line feed after the digits does not
count; everything else is refused. -/
theorem decoders_accept (digits value : Text) :
    ((∃ characters, codePoint digits = .ok characters) ↔
        digits = [] ∨ Names digits ∨ NamesBeforeLineFeed digits) ∧
      ((∃ fault, codePoint digits = .error fault) ↔
        digits ≠ [] ∧ ¬Names digits ∧ ¬NamesBeforeLineFeed digits) ∧
      ((∃ characters, sequence value = .ok characters) ↔
        ∀ piece, Text.IsPiece 'u' piece value → piece ≠ [] →
          Names piece ∨ NamesBeforeLineFeed piece) ∧
      ((∃ fault, sequence value = .error fault) ↔
        ∃ piece, Text.IsPiece 'u' piece value ∧ piece ≠ [] ∧
          ¬Names piece ∧ ¬NamesBeforeLineFeed piece) := by
  have single := reports_codePoint digits
  have several := reports_sequence value
  have singleFaulty : (if digits = [] then [] else faults "cp" digits) ≠ [] ↔
      digits ≠ [] ∧ Rejects digits := by
    rw [← @faults_ne_nil_iff "cp"]
    by_cases empty : digits = []
    · simp [empty]
    · simp [empty]
  have severalFaulty := @faultsOfAll_ne_nil_iff "settings" (Text.splitOn 'u' value)
  simp only [Text.mem_splitOn_iff, rejects_iff] at singleFaulty severalFaulty
  rw [single.exists_error_iff, several.exists_error_iff, single.exists_ok_iff,
    several.exists_ok_iff]
  refine ⟨?_, singleFaulty, ?_, severalFaulty⟩
  · rw [← not_iff_not, ← ne_eq, singleFaulty, not_or, not_or]
  · rw [← not_iff_not, ← ne_eq, severalFaulty]
    push Not
    rfl

/-- The line feed is no digit, but both decoders take it. -/
theorem decoders_accept_lineFeed :
    codePoint "41\n" = .ok "A" ∧ sequence "u41\n" = .ok "A" ∧
      Text.IsPiece 'u' "41\n" "u41\n" ∧ ¬Names "41\n" := by
  refine ⟨by decide, by decide, ⟨"u", [], by decide⟩, ?_⟩
  rintro ⟨value, spelled, -⟩
  have unread : Hex.value? "41\n" = none := by decide
  rw [(Hex.spells_iff_value?.mp spelled).2] at unread
  cases unread

end Reference

end Tailoring

import Tailoring.Proofs.IcuRules.Faults
import Tailoring.Proofs.SimpleRules.Token

/-!
# Which collations have simple rules

A collation has simple rules, has none, or is rejected. Rules are read from the
first item on and only as far as needed: an item of a kind that the dialect lacks
ends the reading, so nothing after it is rejected, and the start is looked at only
if it is a reset before a primary position. No data passes for the start, since no
literal begins with a bracket.
-/

set_option autoImplicit false

namespace Tailoring

theorem lookup_eq_some_iff_mem {Key Entry : Type} [BEq Key] [LawfulBEq Key]
    {table : List (Key × Entry)} (unique : (table.map Prod.fst).Nodup) {key : Key}
    {entry : Entry} : table.lookup key = some entry ↔ (key, entry) ∈ table := by
  induction table with
  | nil => simp
  | cons first table ih =>
      obtain ⟨firstKey, firstEntry⟩ := first
      obtain ⟨fresh, unique⟩ := List.nodup_cons.mp unique
      by_cases same : key = firstKey
      · subst same
        have elsewhere : (key, entry) ∉ table := fun member =>
          fresh (List.mem_map.mpr ⟨_, member, rfl⟩)
        simp [elsewhere, eq_comm]
      · have differs : (key == firstKey) = false := beq_false_of_ne same
        simp [List.lookup_cons, differs, same, ih unique]

theorem Role.ofKind?_eq_some_iff {kind : Text} {role : Role} :
    Role.ofKind? kind = some role ↔ (kind, role) ∈ Role.kinds :=
  lookup_eq_some_iff_mem (by decide)

theorem Anchor.position_eq_first_regular_iff {name : Text} :
    Anchor.position name = "[first regular]" ↔
      name = "first_non_ignorable" ∨ Text.replace '_' ' ' name = "first regular" := by
  unfold Anchor.position
  split
  · next named => simp [named]
  · next other =>
    split
    · next named =>
      subst named
      decide
    · have spelled : ("[first regular]" : Text) = "[" ++ "first regular" ++ "]" := rfl
      rw [spelled, List.append_left_inj, List.append_right_inj]
      simp [other]

theorem Literal.ofText_ne_first_regular (t : Text) : ofText t ≠ "[first regular]" := by
  intro same
  have starts : (writeFrom 0 false t).head? = some ('[' : CodePoint) := by
    rw [← ofText, same]
    rfl
  rcases head?_writeFrom starts with quotes | ⟨-, free | escapes⟩
  · exact absurd quotes (by decide)
  · exact absurd free (by decide)
  · exact absurd escapes (by decide)

namespace Item

/-! ## The start -/

/-- A reset to before the first regular position, which has two names. -/
structure Starts (item : Item) : Prop where
  kind : item.kind = "reset"
  before : item.before = some ("primary" : Text)
  anchor : ∃ name, item.anchor = some name ∧
    (name = "first_non_ignorable" ∨ Text.replace '_' ' ' name = "first regular")

/-- A reset that cannot be read: it lies before what is no strength, or it lies before
a primary position and has no content or a misspelt character for it. -/
inductive FailsToStart (item : Item) : Prop where
  | before {value : Text} :
      item.kind = "reset" → item.before = some value → value ≠ [] →
      value ∉ (["primary", "secondary", "tertiary"] : List Text) → FailsToStart item
  | datum :
      item.kind = "reset" → item.before = some ("primary" : Text) → item.LacksDatum →
      FailsToStart item

theorem role?_eq_reset_iff {item : Item} : item.role? = some .reset ↔ item.kind = "reset" := by
  rw [role?, Role.ofKind?_eq_some_iff]
  simp [Role.kinds]

theorem lookup_beforeOptions_first_iff {value : Text} :
    beforeOptions.lookup value = some ("[before 1] " : Text) ↔ value = "primary" := by
  have differ : ("[before 1] " : Text) ≠ "[before 2] " ∧ ("[before 1] " : Text) ≠ "[before 3] " := by
    decide
  rw [lookup_eq_some_iff_mem (by decide)]
  simp [beforeOptions, differ]

theorem beforeOption_eq_first_iff {item : Item} :
    item.beforeOption = .ok ("[before 1] " : Text) ↔ item.before = some ("primary" : Text) := by
  have present : ("[before 1] " : Text) ≠ [] ∧ ("primary" : Text) ≠ [] := by decide
  match given : item.before with
  | none => simpa [beforeOption, given] using present.1.symm
  | some [] => simp [beforeOption, given, present.1.symm, present.2.symm]
  | some (c :: rest) =>
      rw [beforeOption_of_value given (by simp), Option.some.injEq,
        ← lookup_beforeOptions_first_iff]
      cases beforeOptions.lookup (c :: rest) with
      | none => simp
      | some option => simp

theorem exists_beforeOption_error_iff {item : Item} :
    (∃ fault, item.beforeOption = .error fault) ↔ ∃ value, item.before = some value ∧
      value ≠ [] ∧ value ∉ (["primary", "secondary", "tertiary"] : List Text) :=
  item.reports_beforeOption.exists_error_iff.trans beforeFaults_ne_nil_iff

theorem exists_literal_error_iff {item : Item} :
    (∃ fault, item.literal = .error fault) ↔ item.LacksDatum :=
  item.reports_literal.exists_error_iff.trans datumFaults_ne_nil_iff

theorem exists_data_error_iff {item : Item} :
    (∃ fault, item.data = .error fault) ↔ item.Misspells :=
  item.reports_data.exists_error_iff.trans referenceFaults_ne_nil_iff

theorem literal_eq_first_regular_iff {item : Item} :
    item.literal = .ok ("[first regular]" : Text) ↔ ∃ name, item.anchor = some name ∧
      (name = "first_non_ignorable" ∨ Text.replace '_' ' ' name = "first regular") := by
  constructor
  · intro literal
    unfold Item.literal at literal
    split at literal
    · cases literal
    · cases anchored : item.anchor with
      | some name =>
          rw [anchored] at literal
          exact ⟨name, rfl, Anchor.position_eq_first_regular_iff.mp (Except.ok.inj literal)⟩
      | none =>
          rw [anchored] at literal
          obtain ⟨data, _, written⟩ := Outcome.map_eq_ok_iff.mp literal
          exact absurd written (Literal.ofText_ne_first_regular data)
  · intro position
    obtain ⟨name, anchored, named⟩ := position
    have present : item.isEmpty = false := by simp [isEmpty, anchored]
    simp [Item.literal, present, anchored, Anchor.position_eq_first_regular_iff.mpr named]

end Item

namespace SimpleRules

theorem isStart_eq_true_iff_starts {item : Item} : isStart item = .ok true ↔ item.Starts := by
  rw [isStart_eq_true_iff, Item.role?_eq_reset_iff, Item.beforeOption_eq_first_iff,
    Item.literal_eq_first_regular_iff]
  constructor
  · intro held
    exact ⟨held.1, held.2.1, held.2.2⟩
  · intro starts
    exact ⟨starts.kind, starts.before, starts.anchor⟩

/-- The option is looked at first, and the datum only of a reset before a primary
position. -/
theorem exists_isStart_error_iff {item : Item} :
    (∃ fault, isStart item = .error fault) ↔ item.FailsToStart := by
  constructor
  · intro fails
    obtain ⟨fault, rejected⟩ := fails
    unfold isStart at rejected
    split at rejected
    · next role =>
      have kind := Item.role?_eq_reset_iff.mp role
      rcases Outcome.bind_eq_error_iff.mp rejected with rejected | ⟨option, known, rejected⟩
      · obtain ⟨value, given, present, unlisted⟩ :=
          Item.exists_beforeOption_error_iff.mp ⟨fault, rejected⟩
        exact .before kind given present unlisted
      · split at rejected
        · next first =>
          subst first
          have before := Item.beforeOption_eq_first_iff.mp known
          rcases Outcome.bind_eq_error_iff.mp rejected with rejected | ⟨position, _, rejected⟩
          · exact .datum kind before (Item.exists_literal_error_iff.mp ⟨fault, rejected⟩)
          · cases rejected
        · cases rejected
    · cases rejected
  · intro fails
    cases fails with
    | before kind given present unlisted =>
        obtain ⟨fault, rejected⟩ :=
          Item.exists_beforeOption_error_iff.mpr ⟨_, given, present, unlisted⟩
        refine ⟨fault, ?_⟩
        simp [isStart, Item.role?_eq_reset_iff.mpr kind, rejected, bind, Except.bind]
    | datum kind before lacking =>
        obtain ⟨fault, rejected⟩ := Item.exists_literal_error_iff.mpr lacking
        refine ⟨fault, ?_⟩
        simp [isStart, Item.role?_eq_reset_iff.mpr kind, Item.beforeOption_eq_first_iff.mpr before,
          rejected, bind, Except.bind]

/-! ## The items after the start -/

/-- The kinds of item that the dialect can express. -/
def kinds : List Text :=
  ["p", "s", "t", "pc", "sc", "tc"]

theorem mem_kinds_iff {item : Item} :
    item.kind ∈ kinds ↔ ∃ strength, strength ≠ .identical ∧
      (item.role? = some (.relation strength) ∨ item.role? = some (.sequence strength)) := by
  simp only [Item.role?, Role.ofKind?_eq_some_iff]
  constructor
  · intro member
    simp only [kinds, List.mem_cons, List.not_mem_nil, or_false] at member
    rcases member with kind | kind | kind | kind | kind | kind <;> rw [kind]
    · exact ⟨.primary, by decide, .inl (by decide)⟩
    · exact ⟨.secondary, by decide, .inl (by decide)⟩
    · exact ⟨.tertiary, by decide, .inl (by decide)⟩
    · exact ⟨.primary, by decide, .inr (by decide)⟩
    · exact ⟨.secondary, by decide, .inr (by decide)⟩
    · exact ⟨.tertiary, by decide, .inr (by decide)⟩
  · intro simple
    obtain ⟨strength, told, relation | sequence⟩ := simple
    · cases strength <;> simp_all [Role.kinds, kinds]
    · cases strength <;> simp_all [Role.kinds, kinds]

theorem exists_separator? (newline : Text) {strength : Strength} (told : strength ≠ .identical) :
    ∃ separator, separator? newline strength = some separator := by
  cases strength with
  | primary => exact ⟨_, rfl⟩
  | secondary => exact ⟨_, rfl⟩
  | tertiary => exact ⟨_, rfl⟩
  | identical => exact absurd rfl told

theorem addItem_of_mem_kinds (newline : Text) (draft : Draft) {item : Item}
    (known : item.kind ∈ kinds) :
    ∃ write : Text → Draft,
      addItem newline draft item = item.data.map fun data => some (write data) := by
  obtain ⟨strength, told, role | role⟩ := mem_kinds_iff.mp known
  all_goals
    obtain ⟨separator, separated⟩ := exists_separator? newline told
    simp only [addItem, role, separated]
    exact ⟨_, rfl⟩

theorem addItem_of_not_mem_kinds (newline : Text) (draft : Draft) {item : Item}
    (unknown : item.kind ∉ kinds) : addItem newline draft item = .ok none := by
  unfold addItem
  split
  · next strength role =>
    split
    · next separator separated =>
      have told := ne_identical_of_separator? separated
      exact absurd (mem_kinds_iff.mpr ⟨strength, told, .inl role⟩) unknown
    · rfl
  · next strength role =>
    split
    · next separator separated =>
      have told := ne_identical_of_separator? separated
      exact absurd (mem_kinds_iff.mpr ⟨strength, told, .inr role⟩) unknown
    · rfl
  · rfl

/-- What can happen at an item: reading ends there without simple rules, or it fails
there, or it goes on. -/
theorem addItems_cons_cases (newline : Text) (draft : Draft) (item : Item) (rest : List Item) :
    item.kind ∉ kinds ∧ addItems newline draft (item :: rest) = .ok none ∨
      (item.kind ∈ kinds ∧ item.Misspells ∧
        ∃ fault, addItems newline draft (item :: rest) = .error fault) ∨
      (item.kind ∈ kinds ∧ ¬item.Misspells ∧
        ∃ draft', addItems newline draft (item :: rest) = addItems newline draft' rest) := by
  by_cases known : item.kind ∈ kinds
  · right
    obtain ⟨write, added⟩ := addItem_of_mem_kinds newline draft known
    cases read : item.data with
    | error fault =>
        refine .inl ⟨known, Item.exists_data_error_iff.mp ⟨fault, read⟩, fault, ?_⟩
        simp [addItems, added, read, Except.map, bind, Except.bind]
    | ok data =>
        have spelt : ¬item.Misspells := by
          rw [← Item.exists_data_error_iff, read]
          simp
        refine .inr ⟨known, spelt, write data, ?_⟩
        simp [addItems, added, read, Except.map, bind, Except.bind]
  · refine .inl ⟨known, ?_⟩
    simp [addItems, addItem_of_not_mem_kinds newline draft known, bind, Except.bind, pure,
      Except.pure]

theorem exists_addItems_some_iff {newline : Text} {draft : Draft} {items : List Item} :
    (∃ draft', addItems newline draft items = .ok (some draft')) ↔
      ∀ item ∈ items, item.kind ∈ kinds ∧ ¬item.Misspells := by
  induction items generalizing draft with
  | nil => simp [addItems]
  | cons item rest ih =>
      rw [List.forall_mem_cons]
      rcases addItems_cons_cases newline draft item rest with
        ⟨unknown, ended⟩ | ⟨known, misspelt, fault, failed⟩ | ⟨known, spelt, draft', went⟩
      · simp [ended, unknown]
      · simp [failed, misspelt]
      · rw [went, ih]
        simp [known, spelt]

theorem exists_addItems_error_iff {newline : Text} {draft : Draft} {items : List Item} :
    (∃ fault, addItems newline draft items = .error fault) ↔
      ∃ item ∈ items.takeWhile (kinds.contains ·.kind), item.Misspells := by
  induction items generalizing draft with
  | nil => simp [addItems]
  | cons item rest ih =>
      rcases addItems_cons_cases newline draft item rest with
        ⟨unknown, ended⟩ | ⟨known, misspelt, fault, failed⟩ | ⟨known, spelt, draft', went⟩
      · simp [ended, unknown]
      · simp [failed, known, misspelt]
      · rw [went, ih]
        simp [known, spelt]

/-! ## Whole rules -/

theorem ofItems_cons_cases (newline : Text) (first : Item) (rest : List Item) :
    (first.FailsToStart ∧ ¬first.Starts ∧ ∃ fault, ofItems newline (first :: rest) = .error fault) ∨
      (¬first.FailsToStart ∧ ¬first.Starts ∧ ofItems newline (first :: rest) = .ok none) ∨
      (¬first.FailsToStart ∧ first.Starts ∧ ofItems newline (first :: rest) =
        (addItems newline {} rest).map
          (Option.map fun draft => Text.trim draft.endGroup.text)) := by
  rw [← exists_isStart_error_iff, ← isStart_eq_true_iff_starts]
  cases started : isStart first with
  | error fault => simp [ofItems, started, bind, Except.bind]
  | ok starts =>
      cases starts with
      | false => simp [ofItems, started, bind, Except.bind, pure, Except.pure]
      | true =>
          simp only [ofItems, started, bind, Except.bind, pure, Except.pure]
          cases addItems newline {} rest with
          | error fault => simp [Except.map]
          | ok draft => simp [Except.map]

theorem exists_ofItems_some_iff {newline : Text} {first : Item} {rest : List Item} :
    (∃ text, ofItems newline (first :: rest) = .ok (some text)) ↔
      first.Starts ∧ ∀ item ∈ rest, item.kind ∈ kinds ∧ ¬item.Misspells := by
  rcases ofItems_cons_cases newline first rest with
    ⟨_, unlike, fault, failed⟩ | ⟨_, unlike, ended⟩ | ⟨_, starts, went⟩
  · simp [failed, unlike]
  · simp [ended, unlike]
  · rw [← @exists_addItems_some_iff newline {}, went]
    simp [starts, Outcome.map_eq_ok_iff]

theorem exists_ofItems_error_iff {newline : Text} {first : Item} {rest : List Item} :
    (∃ fault, ofItems newline (first :: rest) = .error fault) ↔
      first.FailsToStart ∨
        first.Starts ∧ ∃ item ∈ rest.takeWhile (kinds.contains ·.kind), item.Misspells := by
  rcases ofItems_cons_cases newline first rest with
    ⟨fails, _, fault, failed⟩ | ⟨starts, unlike, ended⟩ | ⟨readable, starts, went⟩
  · simp [failed, fails]
  · simp [ended, starts, unlike]
  · rw [← @exists_addItems_error_iff newline {}, went]
    simp [readable, starts, Outcome.map_eq_error_iff]

end SimpleRules

namespace Collation

/-- The collation has no settings, and its rules are those of the simple dialect. -/
def FitsSimple (collation : Collation) : Prop :=
  collation.settings = none ∧ (collation.rules.getD [] = [] ∨
    ∃ first rest, collation.rules = some (first :: rest) ∧ first.Starts ∧
      ∀ item ∈ rest, item.kind ∈ SimpleRules.kinds ∧ ¬item.Misspells)

/-- The collation has no settings, and its rules fail to start or have a misspelt
character before anything that the dialect lacks. -/
def SpoilsSimple (collation : Collation) : Prop :=
  collation.settings = none ∧ ∃ first rest, collation.rules = some (first :: rest) ∧
    (first.FailsToStart ∨ first.Starts ∧
      ∃ item ∈ rest.takeWhile (SimpleRules.kinds.contains ·.kind), item.Misspells)

theorem exists_simpleRules?_some_iff {newline : Text} {collation : Collation} :
    (∃ text, collation.simpleRules? newline = .ok (some text)) ↔ collation.FitsSimple := by
  unfold simpleRules? FitsSimple
  cases collation.settings with
  | some given => simp
  | none =>
      match collation.rules with
      | none => simp
      | some [] => simp [SimpleRules.ofItems]
      | some (first :: rest) => simp [SimpleRules.exists_ofItems_some_iff]

theorem exists_simpleRules?_error_iff {newline : Text} {collation : Collation} :
    (∃ fault, collation.simpleRules? newline = .error fault) ↔ collation.SpoilsSimple := by
  unfold simpleRules? SpoilsSimple
  cases collation.settings with
  | some given => simp
  | none =>
      match collation.rules with
      | none => simp
      | some [] => simp [SimpleRules.ofItems]
      | some (first :: rest) => simp [SimpleRules.exists_ofItems_error_iff]

theorem not_fitsSimple_of_anchor {collation : Collation} {first : Item} {rest : List Item}
    (rules : collation.rules = some (first :: rest)) (unnamed : first.anchor = none) :
    ¬collation.FitsSimple := by
  intro fits
  obtain ⟨-, empty | ⟨first', rest', rules', starts, -⟩⟩ := fits
  · simp [rules] at empty
  · obtain ⟨name, named, _⟩ := starts.anchor
    rw [rules] at rules'
    cases rules'
    rw [unnamed] at named
    cases named

/-- A collation has simple rules exactly if it fits the dialect, is rejected exactly if
it spoils them, and otherwise has none. Whatever else a first item holds, without an
anchor it starts no simple rules. -/
theorem simpleRules?_outcome (newline : Text) (collation : Collation) :
    ((∃ text, collation.simpleRules? newline = .ok (some text)) ↔ collation.FitsSimple) ∧
      ((∃ fault, collation.simpleRules? newline = .error fault) ↔ collation.SpoilsSimple) ∧
      (collation.simpleRules? newline = .ok none ↔
        ¬collation.FitsSimple ∧ ¬collation.SpoilsSimple) ∧
      ∀ first rest, collation.rules = some (first :: rest) → first.anchor = none →
        ∀ text, collation.simpleRules? newline ≠ .ok (some text) := by
  refine ⟨exists_simpleRules?_some_iff, exists_simpleRules?_error_iff, ?_, ?_⟩
  · rw [← @exists_simpleRules?_some_iff newline, ← @exists_simpleRules?_error_iff newline]
    cases collation.simpleRules? newline with
    | error fault => simp
    | ok written => cases written <;> simp
  · intro first rest rules unnamed text accepted
    exact not_fitsSimple_of_anchor rules unnamed (exists_simpleRules?_some_iff.mp ⟨text, accepted⟩)

/-- The name of the start as data is quoted and starts nothing. An item that the dialect
lacks hides a misspelt character after it. -/
theorem simpleRules?_outcome_quoted_start :
    let quoted : Item :=
      { kind := "reset", before := some "primary", text := "[first regular]" }
    let start : Item :=
      { kind := "reset", before := some "primary", anchor := some "first_regular" }
    let misspelt : Item := { kind := "p", codePoints := ["6G"] }
    let identical : Item := { kind := "i", text := "b" }
    (∀ text, ({ rules := some [quoted, identical] } : Collation).simpleRules? [lineFeed] ≠
        .ok (some text)) ∧
      ({ rules := some [start, misspelt, identical] } : Collation).SpoilsSimple ∧
      ¬({ rules := some [start, identical, misspelt] } : Collation).SpoilsSimple := by
  intro quoted start misspelt identical
  refine ⟨?_, ?_, ?_⟩
  · exact (simpleRules?_outcome [lineFeed] _).2.2.2 quoted [identical] rfl rfl
  · exact (simpleRules?_outcome [lineFeed] _).2.1.mp ⟨.notHex "6G" "cp", rfl⟩
  · exact ((simpleRules?_outcome [lineFeed] _).2.2.1.mp rfl).2

end Collation

end Tailoring

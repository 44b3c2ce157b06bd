import Tailoring.Proofs.IcuRules.Entry
import Tailoring.Proofs.SimpleRules.Token

/-!
# Sequences written out

A sequence is short for relations, one for each of its scalars. Writing out any
of the sequences of a collation changes neither its ICU rules nor its simple
rules, whatever items stand around them and whether or not they are faulty.
-/

set_option autoImplicit false

namespace Tailoring

/-- The kind of the relation of a strength. -/
def Strength.relationKind : Strength → Text
  | primary => "p"
  | secondary => "s"
  | tertiary => "t"
  | identical => "i"

namespace Item

/-- The relation that puts one scalar. -/
def ofScalar (strength : Strength) (s : Scalar) : Item :=
  { kind := strength.relationKind, text := s.text }

/-- What may stand for an item: the item itself, or the relations that a sequence
with data is short for. -/
inductive Expands : Item → List Item → Prop where
  | kept (item : Item) : Expands item [item]
  | sequence {item strength data} :
      item.role? = some (.sequence strength) → item.data = .ok data → data ≠ [] →
      Expands item ((Text.scalars data).map (ofScalar strength))

def ExpandAll (items expanded : List Item) : Prop :=
  ∃ parts, List.Forall₂ Expands items parts ∧ parts.flatten = expanded

theorem role?_ofScalar (strength : Strength) (s : Scalar) :
    (ofScalar strength s).role? = some (.relation strength) := by
  cases strength <;> rfl

theorem data_ofScalar (strength : Strength) (s : Scalar) :
    (ofScalar strength s).data = .ok s.text := rfl

theorem literal_ofScalar {s : Scalar} (strength : Strength) (wellFormed : s.WellFormed) :
    (ofScalar strength s).literal = .ok (Literal.ofScalar s) := by
  have present := isEmpty_of_data (data_ofScalar strength s) s.text_ne_nil
  have noAnchor : (ofScalar strength s).anchor = none := rfl
  rw [Literal.ofScalar_eq_ofText wellFormed]
  simp [literal, present, noAnchor, data_ofScalar, Except.map]

/-! ## ICU rules -/

theorem clausesOfAll_append (front back : List Item) :
    clausesOfAll (front ++ back) = do
      let first ← clausesOfAll front
      let second ← clausesOfAll back
      return first ++ second := by
  simp [clausesOfAll, List.mapM_append]

theorem Expands.clausesOfAll {item : Item} {part : List Item} (expands : item.Expands part) :
    clausesOfAll part = item.clauses := by
  cases expands with
  | kept => simp [Item.clausesOfAll]
  | @sequence strength data role read present =>
      have emitted : item.clauses = .ok _ :=
        clauses_eq_ok_iff.mpr (.sequence role (isEmpty_of_data read present) read)
      rw [emitted, clausesOfAll_eq_ok_iff]
      refine ⟨(Text.scalars data).map fun s => [.relation strength (Literal.ofScalar s)], ?_, ?_⟩
      · rw [List.forall₂_map_left_iff, List.forall₂_map_right_iff, List.forall₂_same]
        intro s member
        exact .relation (role?_ofScalar strength s)
          (literal_ofScalar strength (Text.wellFormed_of_mem_scalars member))
      · rw [← List.flatMap_def, ← List.map_eq_flatMap]

theorem ExpandAll.clausesOfAll {items expanded : List Item} (expands : ExpandAll items expanded) :
    clausesOfAll expanded = clausesOfAll items := by
  obtain ⟨parts, expands, rfl⟩ := expands
  induction expands with
  | nil => rfl
  | @cons item part items parts first _ ih =>
      rw [List.flatten_cons, clausesOfAll_append, first.clausesOfAll, ih,
        ← (Expands.kept item).clausesOfAll, ← clausesOfAll_append, List.singleton_append]

end Item

/-! ## Simple rules -/

namespace SimpleRules

theorem addItems_cons (newline : Text) (draft : Draft) (item : Item) (rest : List Item) :
    addItems newline draft (item :: rest) =
      addItem newline draft item >>= fun added =>
        added.elim (.ok none) fun draft' => addItems newline draft' rest := by
  rw [addItems]
  cases addItem newline draft item with
  | error fault => rfl
  | ok added =>
      cases added with
      | none => rfl
      | some draft' => rfl

theorem addItems_append (newline : Text) (draft : Draft) (front back : List Item) :
    addItems newline draft (front ++ back) =
      addItems newline draft front >>= fun added =>
        added.elim (.ok none) fun draft' => addItems newline draft' back := by
  induction front generalizing draft with
  | nil => rfl
  | cons item front ih =>
      rw [List.cons_append, addItems_cons, addItems_cons]
      cases addItem newline draft item with
      | error fault => rfl
      | ok added =>
          cases added with
          | none => rfl
          | some draft' => exact ih draft'

theorem addItems_singleton (newline : Text) (draft : Draft) (item : Item) :
    addItems newline draft [item] = addItem newline draft item := by
  rw [addItems_cons]
  cases addItem newline draft item with
  | error fault => rfl
  | ok added =>
      cases added with
      | none => rfl
      | some draft' => rfl

theorem addItem_ofScalar {newline separator : Text} {strength : Strength}
    (separated : separator? newline strength = some separator) (draft : Draft) (s : Scalar) :
    addItem newline draft (Item.ofScalar strength s) =
      .ok (some (draft.add newline ⟨strength, s.text⟩)) := by
  simp [addItem, Item.role?_ofScalar, Item.data_ofScalar, separated, Draft.add, Except.map]

theorem addItems_ofScalars {newline separator : Text} {strength : Strength}
    (separated : separator? newline strength = some separator) (draft : Draft)
    (scalars : List Scalar) :
    addItems newline draft (scalars.map (Item.ofScalar strength)) =
      .ok (some ((Token.each strength scalars).foldl (Draft.add newline) draft)) := by
  induction scalars generalizing draft with
  | nil => rfl
  | cons s scalars ih =>
      rw [List.map_cons, addItems_cons, addItem_ofScalar separated]
      exact ih _

theorem addItem_of_unseparated {newline : Text} {strength : Strength} {item : Item}
    (role : item.role? = some (.relation strength) ∨ item.role? = some (.sequence strength))
    (unseparated : separator? newline strength = none) (draft : Draft) :
    addItem newline draft item = .ok none := by
  rcases role with role | role
  · simp [addItem, role, unseparated]
  · simp [addItem, role, unseparated]

end SimpleRules

namespace Item

theorem Expands.addItems {item : Item} {part : List Item} (expands : item.Expands part)
    (newline : Text) (draft : SimpleRules.Draft) :
    SimpleRules.addItems newline draft part = SimpleRules.addItem newline draft item := by
  cases expands with
  | kept => exact SimpleRules.addItems_singleton newline draft item
  | @sequence strength data role read present =>
      cases separated : SimpleRules.separator? newline strength with
      | some separator =>
          rw [SimpleRules.addItems_ofScalars separated,
            ← SimpleRules.appendEach_eq_foldl_add newline separated present]
          simp [SimpleRules.addItem, role, separated, read, Except.map]
      | none =>
          obtain ⟨s, more, scalars⟩ := List.exists_cons_of_ne_nil (Text.scalars_ne_nil present)
          rw [SimpleRules.addItem_of_unseparated (.inr role) separated, scalars, List.map_cons,
            SimpleRules.addItems_cons,
            SimpleRules.addItem_of_unseparated (.inl (role?_ofScalar strength s)) separated]
          rfl

theorem ExpandAll.addItems {items expanded : List Item} (expands : ExpandAll items expanded)
    (newline : Text) (draft : SimpleRules.Draft) :
    SimpleRules.addItems newline draft expanded = SimpleRules.addItems newline draft items := by
  obtain ⟨parts, expands, rfl⟩ := expands
  induction expands generalizing draft with
  | nil => rfl
  | @cons item part items parts first _ ih =>
      rw [List.flatten_cons, SimpleRules.addItems_append, first.addItems,
        SimpleRules.addItems_cons]
      simp only [ih]

end Item

namespace SimpleRules

theorem ofItems_of_not_reset {first : Item} (notReset : first.role? ≠ some .reset)
    (newline : Text) (rest : List Item) : ofItems newline (first :: rest) = .ok none := by
  simp [ofItems, isStart, notReset, bind, Except.bind, pure, Except.pure]

end SimpleRules

theorem Item.ExpandAll.ofItems {items expanded : List Item} (expands : ExpandAll items expanded)
    (newline : Text) :
    SimpleRules.ofItems newline expanded = SimpleRules.ofItems newline items := by
  obtain ⟨parts, expands, rfl⟩ := expands
  cases expands with
  | nil => rfl
  | @cons first part items parts expandsFirst expands =>
      cases expandsFirst with
      | kept =>
          have rest := ExpandAll.addItems ⟨parts, expands, rfl⟩ newline {}
          simp only [List.flatten_cons, List.singleton_append, SimpleRules.ofItems, rest]
      | @sequence strength data role read present =>
          -- neither a sequence nor a relation moves to where simple rules start
          obtain ⟨s, more, scalars⟩ := List.exists_cons_of_ne_nil (Text.scalars_ne_nil present)
          rw [scalars, List.flatten_cons, List.map_cons, List.cons_append,
            SimpleRules.ofItems_of_not_reset (by simp [role?_ofScalar]),
            SimpleRules.ofItems_of_not_reset (by simp [role])]

namespace Collation

/-- The same collation with some of its sequences written out. -/
structure Expands (collation expanded : Collation) : Prop where
  settings : expanded.settings = collation.settings
  suppressContractions : expanded.suppressContractions = collation.suppressContractions
  optimize : expanded.optimize = collation.optimize
  rules : Option.Rel Item.ExpandAll collation.rules expanded.rules

/-- Writing sequences out changes neither ICU rules nor simple rules, and no
fault either. -/
theorem rules_of_expands {collation expanded : Collation} (expands : collation.Expands expanded)
    (newline : Text) :
    expanded.icuRules newline = collation.icuRules newline ∧
      expanded.simpleRules? newline = collation.simpleRules? newline := by
  obtain ⟨settings, suppressContractions, optimize, rules⟩ := collation
  obtain ⟨settings', suppressContractions', optimize', rules'⟩ := expanded
  obtain ⟨rfl, rfl, rfl, related⟩ := expands
  cases related with
  | none => exact ⟨rfl, rfl⟩
  | some expands =>
      constructor
      · simp only [icuRules, readSettings, clauses, optionDirectives, Option.getD_some,
          expands.clausesOfAll]
      · cases settings' with
        | none => exact expands.ofItems newline
        | some given => rfl

/-- The first of two sequences written out: a hyphen and a surrogate pair. -/
theorem rules_of_expands_pair :
    let start : Item :=
      { kind := "reset", before := some "primary", anchor := some "first_non_ignorable" }
    let sequence : Item := { kind := "pc", text := [0x2D, 0xD83D, 0xDE00] }
    let kept : Item := { kind := "tc", text := "bc" }
    let collation : Collation := { rules := some [start, sequence, kept] }
    let expanded : Collation :=
      { rules := some
          [start, { kind := "p", text := "-" }, { kind := "p", text := [0xD83D, 0xDE00] }, kept] }
    collation.Expands expanded ∧
      expanded.icuRules [lineFeed] = collation.icuRules [lineFeed] ∧
      expanded.simpleRules? [lineFeed] = collation.simpleRules? [lineFeed] ∧
      collation.simpleRules? [lineFeed] =
        .ok (some ([0x2D, lineFeed, 0x28, 0xD83D, 0xDE00] ++ (" b c)" : Text))) := by
  intro start sequence kept collation expanded
  have writtenOut : sequence.Expands ((Text.scalars sequence.text).map (Item.ofScalar .primary)) :=
    .sequence rfl rfl (List.cons_ne_nil _ _)
  have expands : collation.Expands expanded :=
    ⟨rfl, rfl, rfl,
      .some ⟨_, .cons (.kept start) (.cons writtenOut (.cons (.kept kept) .nil)), rfl⟩⟩
  have same := rules_of_expands expands [lineFeed]
  exact ⟨expands, same.1, same.2, by decide +kernel⟩

end Collation

end Tailoring

import Tailoring.IcuRules
import Tailoring.Proofs.Outcome

/-!
# What items emit

The clauses that an item contributes to ICU rules, kind by kind, beside the
function that computes them, and the text of a clause apart from any marker.
-/

set_option autoImplicit false

namespace Tailoring

/-- A clause as it stands in the rules when no marker follows it. -/
def Clause.text (newline : Text) (clause : Clause) : Text :=
  clause.lead newline ++ clause.datum?.getD []

/-- The clauses of one item. A reset or a relation has its literal for datum, a
sequence has one clause for each scalar, and an extended item has no datum. -/
inductive Item.Emits : Item → List Clause → Prop where
  | reset {item before datum} :
      item.role? = some .reset → item.beforeOption = .ok before → item.literal = .ok datum →
      Emits item [.reset before datum]
  | relation {item strength datum} :
      item.role? = some (.relation strength) → item.literal = .ok datum →
      Emits item [.relation strength datum]
  | sequence {item strength data} :
      item.role? = some (.sequence strength) → item.isEmpty = false → item.data = .ok data →
      Emits item ((Text.scalars data).map fun s => .relation strength (Literal.ofScalar s))
  | extended {item body} :
      item.role? = some .extended → item.children.foldlM Item.extendBody [] = .ok body →
      Emits item [.extended body]

namespace Item

/-- An item has clauses exactly if its kind is known, its data can be read and,
for a reset, its position is known. -/
theorem clauses_eq_ok_iff {item : Item} {clauses : List Clause} :
    item.clauses = .ok clauses ↔ item.Emits clauses := by
  unfold Item.clauses
  constructor
  · intro emitted
    split at emitted
    · next role =>
        obtain ⟨before, option, emitted⟩ := Outcome.bind_eq_ok_iff.mp emitted
        obtain ⟨datum, literal, emitted⟩ := Outcome.bind_eq_ok_iff.mp emitted
        cases Outcome.pure_eq_ok_iff.mp emitted
        exact .reset role option literal
    · next strength role =>
        obtain ⟨datum, literal, emitted⟩ := Outcome.bind_eq_ok_iff.mp emitted
        cases Outcome.pure_eq_ok_iff.mp emitted
        exact .relation role literal
    · next strength role =>
        split at emitted
        · cases emitted
        · next present =>
            obtain ⟨data, read, emitted⟩ := Outcome.bind_eq_ok_iff.mp emitted
            cases Outcome.pure_eq_ok_iff.mp emitted
            exact .sequence role (by simpa using present) read
    · next role =>
        obtain ⟨body, gathered, emitted⟩ := Outcome.bind_eq_ok_iff.mp emitted
        cases Outcome.pure_eq_ok_iff.mp emitted
        exact .extended role gathered
    · cases emitted
  · intro emitted
    cases emitted with
    | reset role option literal =>
        simp [role, option, literal, bind, Except.bind, pure, Except.pure]
    | relation role literal =>
        simp [role, literal, bind, Except.bind, pure, Except.pure]
    | sequence role present read =>
        simp [role, present, read, bind, Except.bind, pure, Except.pure]
    | extended role gathered =>
        simp [role, gathered, bind, Except.bind, pure, Except.pure]

/-- The clauses of a rule body: what its items emit, in document order. -/
def EmitAll (items : List Item) (clauses : List Clause) : Prop :=
  ∃ emitted, List.Forall₂ Emits items emitted ∧ emitted.flatten = clauses

theorem clausesOfAll_eq_ok_iff {items : List Item} {clauses : List Clause} :
    clausesOfAll items = .ok clauses ↔ EmitAll items clauses := by
  unfold clausesOfAll EmitAll
  simp only [Outcome.bind_eq_ok_iff, Outcome.mapM_eq_ok_iff, Outcome.pure_eq_ok_iff,
    clauses_eq_ok_iff]

end Item

end Tailoring

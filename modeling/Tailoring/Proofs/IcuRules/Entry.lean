import Tailoring.Proofs.IcuRules.VariableTop
import Tailoring.Proofs.Literal.Plain
import Tailoring.Proofs.Text.Scalar

/-!
# The entries of a tailoring

A tailoring as its author means it: a list of entries, each a reset or a
relation with its data as plain text, before anything is escaped. Items whose
data is plain list entries, and their ICU rules are the text of the entries.
-/

set_option autoImplicit false

namespace Tailoring

/-- What an entry is about: characters, or a position as ICU names it. -/
inductive Datum where
  | characters (data : Text)
  | position (rendered : Text)
  deriving DecidableEq

def Datum.literal : Datum → Text
  | characters data => Literal.ofText data
  | position rendered => rendered

def Datum.asContext : Option Datum → Text
  | none => []
  | some datum => datum.literal ++ " | "

def Datum.asExtension : Option Datum → Text
  | none => []
  | some datum => " / " ++ datum.literal

/-- One step of a tailoring. -/
inductive Entry where
  | reset (before : Text) (datum : Datum)
  | relation (strength : Strength) (context : Option Datum) (datum : Datum)
      (extension : Option Datum)
  deriving DecidableEq

def Entry.text (newline : Text) : Entry → Text
  | reset before datum => newline ++ "& " ++ before ++ datum.literal
  | relation strength context datum extension =>
      " " ++ strength.operator ++ " " ++ Datum.asContext context ++ datum.literal ++
        Datum.asExtension extension

namespace Item

/-- The datum of an item with plain data, or with an anchor whose name has only
letters and underscores. -/
inductive PlainDatum : Item → Datum → Prop where
  | anchor {item name} :
      item.anchor = some name → (∀ c ∈ name, c.isLetter = true ∨ c = ('_' : CodePoint)) →
      PlainDatum item (.position (Anchor.position name))
  | data {item data} :
      item.anchor = none → item.data = .ok data → Literal.Plain data →
      PlainDatum item (.characters data)

/-- No part, or one with this role and a plain datum. -/
inductive PlainPart (role : Role) : List Item → Option Datum → Prop where
  | absent : PlainPart role [] none
  | present {part datum} :
      part.role? = some role → PlainDatum part datum → PlainPart role [part] (some datum)

/-- The entries of an item with plain data. A sequence lists one relation for
each scalar; the parts of an extended item are an optional context, one relation
and an optional extension. -/
inductive Lists : Item → List Entry → Prop where
  | reset {item before datum} :
      item.role? = some .reset → item.beforeOption = .ok before → PlainDatum item datum →
      Lists item [.reset before datum]
  | relation {item strength datum} :
      item.role? = some (.relation strength) → PlainDatum item datum →
      Lists item [.relation strength none datum none]
  | sequence {item strength data} :
      item.role? = some (.sequence strength) → item.anchor = none → item.data = .ok data →
      Literal.Plain data →
      Lists item ((Text.scalars data).map fun s =>
        .relation strength none (.characters s.text) none)
  | extended {item contexts relation extensions strength context datum extension} :
      item.role? = some .extended → item.children = contexts ++ relation :: extensions →
      PlainPart .context contexts context → relation.role? = some (.relation strength) →
      PlainDatum relation datum → PlainPart .extension extensions extension →
      Lists item [.relation strength context datum extension]

theorem isEmpty_of_data {item : Item} {data : Text} (read : item.data = .ok data)
    (present : data ≠ []) : item.isEmpty = false := by
  by_contra empty
  simp only [isEmpty, Bool.not_eq_false, Bool.and_eq_true, List.isEmpty_iff] at empty
  obtain ⟨⟨⟨noText, noReferences⟩, _⟩, _⟩ := empty
  simp [Item.data, noText, noReferences, pure, Except.pure, bind, Except.bind] at read
  exact present read

theorem PlainDatum.literal {item : Item} {datum : Datum} (plain : PlainDatum item datum) :
    item.literal = .ok datum.literal := by
  cases plain with
  | anchor named _ =>
      have present : item.isEmpty = false := by simp [isEmpty, named]
      simp [Item.literal, present, named, Datum.literal]
  | data unnamed read plain =>
      simp [Item.literal, isEmpty_of_data read plain.present, unnamed, read, Except.map,
        Datum.literal]

theorem PlainPart.context {parts : List Item} {datum : Option Datum}
    (plain : PlainPart .context parts datum) (body : Text) :
    parts.foldlM extendBody body = .ok (body ++ Datum.asContext datum) := by
  cases plain with
  | absent => simp [Datum.asContext, pure, Except.pure]
  | present role plain =>
      simp [extendBody, role, plain.literal, Datum.asContext, Except.map, pure, Except.pure, bind,
        Except.bind]

theorem PlainPart.extension {parts : List Item} {datum : Option Datum}
    (plain : PlainPart .extension parts datum) (body : Text) :
    parts.foldlM extendBody body = .ok (body ++ Datum.asExtension datum) := by
  cases plain with
  | absent => simp [Datum.asExtension, pure, Except.pure]
  | present role plain =>
      simp [extendBody, role, plain.literal, Datum.asExtension, Except.map, pure, Except.pure,
        bind, Except.bind]

/-- An item with plain data emits clauses that read as its entries. -/
theorem Lists.emits {item : Item} {entries : List Entry} (lists : Lists item entries)
    (newline : Text) :
    ∃ clauses, Emits item clauses ∧
      clauses.flatMap (Clause.text newline) = entries.flatMap (Entry.text newline) := by
  cases lists with
  | reset role before plain =>
      exact ⟨_, .reset role before plain.literal, by
        simp [Clause.text, Clause.lead, Clause.datum?, Entry.text]⟩
  | relation role plain =>
      exact ⟨_, .relation role plain.literal, by
        simp [Clause.text, Clause.lead, Clause.datum?, Entry.text, Datum.asContext,
          Datum.asExtension]⟩
  | @sequence strength data role _ read plain =>
      refine ⟨_, .sequence role (isEmpty_of_data read plain.present) read, ?_⟩
      rw [List.flatMap_map, List.flatMap_map]
      apply List.flatMap_congr
      intro s member
      have literal := Literal.ofScalar_eq_ofText (Text.wellFormed_of_mem_scalars member)
      simp [Clause.text, Clause.lead, Clause.datum?, Entry.text, Datum.literal, literal,
        Datum.asContext, Datum.asExtension]
  | @extended contexts relation extensions strength context datum extension role parts
      contextPlain relationRole relationPlain extensionPlain =>
      have gathered : item.children.foldlM extendBody [] =
          .ok (" " ++ strength.operator ++ " " ++ Datum.asContext context ++ datum.literal ++
            Datum.asExtension extension) := by
        rw [parts, List.foldlM_append, contextPlain.context, List.nil_append]
        simp only [bind, Except.bind, List.foldlM_cons]
        simp only [extendBody, relationRole, relationPlain.literal, Except.map]
        exact extensionPlain.extension _
      exact ⟨_, .extended role gathered, by
        simp [Clause.text, Clause.lead, Clause.datum?, Entry.text]⟩

end Item

namespace Collation

/-- A collation of plain items, with neither settings nor options, and its
entries. -/
structure Lists (collation : Collation) (entries : List Entry) : Prop where
  noSettings : collation.settings = none
  noSuppression : collation.suppressContractions = none
  noOptimization : collation.optimize = none
  listed : ∃ parts, List.Forall₂ Item.Lists (collation.rules.getD []) parts ∧
    parts.flatten = entries

theorem Lists.icuRules {collation : Collation} {entries : List Entry}
    (lists : collation.Lists entries) (newline : Text) :
    collation.icuRules newline = .ok (IcuRules.trim (entries.flatMap (Entry.text newline))) := by
  obtain ⟨parts, listed, rfl⟩ := lists.listed
  obtain ⟨emitted, emits, rendered⟩ :
      ∃ emitted, List.Forall₂ Item.Emits (collation.rules.getD []) emitted ∧
        emitted.flatten.flatMap (Clause.text newline) =
          parts.flatten.flatMap (Entry.text newline) := by
    clear lists
    generalize collation.rules.getD [] = items at listed
    induction listed with
    | nil => exact ⟨[], .nil, rfl⟩
    | cons first _ ih =>
        obtain ⟨clauses, emits, rendered⟩ := first.emits newline
        obtain ⟨emitted, emitsRest, renderedRest⟩ := ih
        exact ⟨clauses :: emitted, .cons emits emitsRest, by simp [rendered, renderedRest]⟩
  rw [icuRules_of_bare newline lists.noSettings lists.noSuppression lists.noOptimization
    ⟨emitted, emits, rfl⟩, rendered]

end Collation

end Tailoring

import Tailoring.Ldml
import Tailoring.Proofs.Outcome

/-!
# Reading elements

The reading of collations from markup, taken apart: the names and the items that a
list of nodes gives are those of its elements, one for each; what an element gives
depends on whether it is an extended item, and what it adds to a collation on its
name. Reading succeeds if all names can be read.
-/

set_option autoImplicit false

namespace Tailoring

namespace Markup.Node

/-- The induction on documents, with the children of an element as a list. -/
@[elab_as_elim]
theorem induction {motive : Node → Prop}
    (element : ∀ name attributes children, (∀ child ∈ children, motive child) →
      motive (.element name attributes children))
    (text : ∀ content, motive (.text content)) (aside : motive .aside) (node : Node) :
    motive node := by
  refine @Node.rec motive (fun nodes => ∀ child ∈ nodes, motive child) element text aside ?_ ?_ node
  · intro child member
    cases member
  · intro first rest holds holdsRest child member
    rcases List.mem_cons.mp member with rfl | member
    · exact holds
    · exact holdsRest child member

end Markup.Node

namespace Ldml

open Markup

/-! ## Lists of nodes -/

theorem elementNames_eq_some_iff {nodes : List Node} {names : List Text} :
    elementNames nodes = some names ↔
      List.Forall₂ (fun node name => node.localName? = some name)
        (nodes.filter Node.isElement) names :=
  Outcome.mapM_eq_some_iff

theorem elementNames_cons_of_not {node : Node} (nodes : List Node)
    (other : node.isElement = false) : elementNames (node :: nodes) = elementNames nodes := by
  rw [elementNames, List.filter_cons_of_neg (by simp [other])]
  rfl

theorem elementNames_cons {node : Node} (nodes : List Node) (element : node.isElement = true) :
    elementNames (node :: nodes) =
      node.localName?.bind fun name => (elementNames nodes).map (name :: ·) := by
  rw [elementNames, List.filter_cons_of_pos element, List.mapM_cons]
  cases node.localName? with
  | none => rfl
  | some name =>
      simp only [elementNames, Option.bind_eq_bind, Option.bind_some]
      cases (nodes.filter Node.isElement).mapM Node.localName? <;> rfl

theorem localName?_of_not {node : Node} (other : node.isElement = false) :
    node.localName? = none := by
  cases node with
  | element => cases other
  | text => rfl
  | aside => rfl

theorem references_cons (node : Node) (nodes : List Node) :
    references (node :: nodes) =
      (if node.localName? = some ("cp" : Text) then [(node.attribute? "hex").getD []] else []) ++
        references nodes := by
  by_cases reference : node.localName? = some ("cp" : Text)
  · rw [references, List.filter_cons_of_pos (by simp [reference]), if_pos reference]
    rfl
  · rw [references, List.filter_cons_of_neg (by simp [reference]), if_neg reference]
    rfl

theorem references_cons_of_not {node : Node} (nodes : List Node)
    (other : node.isElement = false) : references (node :: nodes) = references nodes := by
  rw [references_cons, localName?_of_not other]
  rfl

/-! ## What an element gives -/

theorem item?_of_plain {name kind : Text} {attributes : Attributes} {children : List Node}
    {names : List Text} (named : localName? name = some kind) (plain : kind ≠ "x")
    (readable : elementNames children = some names) :
    item? (.element name attributes children) =
      some (some { kind, text := Node.charactersOfAll children,
                   codePoints := references children, anchor := anchor? names,
                   before := attributes.lookup ("before" : Text) }) := by
  simp [item?, named, readable, plain]

theorem item?_of_extended {name : Text} {attributes : Attributes} {children : List Node}
    {names : List Text} (named : localName? name = some ("x" : Text))
    (readable : elementNames children = some names) :
    item? (.element name attributes children) =
      (items? children).map fun parts =>
        some { kind := "x", codePoints := references children,
               before := attributes.lookup ("before" : Text), children := parts } := by
  simp only [item?, named, readable, Option.bind_eq_bind, Option.bind_some, if_true]
  cases items? children <;> rfl

/-- What is known of an element that can be read. -/
theorem item?_cases {name : Text} {attributes : Attributes} {children : List Node}
    {result : Option Item} (given : item? (.element name attributes children) = some result) :
    ∃ item names, result = some item ∧ localName? name = some item.kind ∧
      elementNames children = some names ∧ item.codePoints = references children ∧
      item.before = attributes.lookup ("before" : Text) ∧
      ((item.kind ≠ "x" ∧ item.text = Node.charactersOfAll children ∧
          item.anchor = anchor? names ∧ item.children = []) ∨
        (item.kind = "x" ∧ item.text = [] ∧ item.anchor = none ∧
          items? children = some item.children)) := by
  cases named : localName? name with
  | none => simp [item?, named] at given
  | some kind =>
      cases readable : elementNames children with
      | none => simp [item?, named, readable] at given
      | some names =>
          by_cases extended : kind = "x"
          · subst extended
            rw [item?_of_extended named readable] at given
            obtain ⟨parts, partsGiven, rfl⟩ := Option.map_eq_some_iff.mp given
            exact ⟨_, names, rfl, rfl, rfl, rfl, rfl, .inr ⟨rfl, rfl, rfl, partsGiven⟩⟩
          · rw [item?_of_plain named extended readable] at given
            cases given
            exact ⟨_, names, rfl, rfl, rfl, rfl, rfl, .inl ⟨extended, rfl, rfl, rfl⟩⟩

theorem exists_of_item? {node : Node} {result : Option Item} (element : node.isElement = true)
    (given : item? node = some result) : ∃ item, result = some item := by
  cases node with
  | text => cases element
  | aside => cases element
  | element name attributes children =>
      obtain ⟨item, _, same, -⟩ := item?_cases given
      exact ⟨item, same⟩

theorem localName?_of_item? {node : Node} {item : Item} (given : item? node = some (some item)) :
    node.localName? = some item.kind := by
  cases node with
  | text => cases given
  | aside => cases given
  | element name attributes children =>
      obtain ⟨item, _, same, named, -⟩ := item?_cases given
      cases same
      exact named

theorem items?_cons_of_not {node : Node} {nodes : List Node} (other : node.isElement = false) :
    items? (node :: nodes) = items? nodes := by
  cases node with
  | element => cases other
  | text => simp [items?, item?]
  | aside => simp [items?, item?]

theorem items?_cons_eq_some_iff {node : Node} {nodes : List Node} {items : List Item}
    (element : node.isElement = true) :
    items? (node :: nodes) = some items ↔
      ∃ item rest, item? node = some (some item) ∧ items? nodes = some rest ∧
        items = item :: rest := by
  simp only [items?, Option.bind_eq_bind, Option.bind_eq_some_iff, Option.pure_def,
    Option.some.injEq]
  constructor
  · rintro ⟨result, given, rest, remaining, rfl⟩
    obtain ⟨item, rfl⟩ := exists_of_item? element given
    exact ⟨item, rest, given, remaining, rfl⟩
  · rintro ⟨item, rest, given, remaining, rfl⟩
    exact ⟨some item, given, rest, remaining, rfl⟩

theorem items?_eq_some_iff {nodes : List Node} {items : List Item} :
    items? nodes = some items ↔
      List.Forall₂ (fun node item => item? node = some (some item))
        (nodes.filter Node.isElement) items := by
  induction nodes generalizing items with
  | nil => simp [items?, eq_comm]
  | cons node nodes ih =>
      cases element : node.isElement with
      | false => rw [items?_cons_of_not element, ih, List.filter_cons_of_neg (by simp [element])]
      | true =>
          rw [List.filter_cons_of_pos element, List.forall₂_cons_left_iff,
            items?_cons_eq_some_iff element]
          constructor
          · rintro ⟨item, rest, given, remaining, rfl⟩
            exact ⟨item, rest, given, ih.mp remaining, rfl⟩
          · rintro ⟨item, rest, given, remaining, rfl⟩
            exact ⟨item, rest, given, ih.mpr remaining, rfl⟩

/-- The character references among nodes are the items of that kind. -/
theorem length_references_of_items? {nodes : List Node} {items : List Item}
    (given : items? nodes = some items) :
    (references nodes).length = items.countP fun item => item.kind = ("cp" : Text) := by
  induction nodes generalizing items with
  | nil =>
      cases given
      rfl
  | cons node nodes ih =>
      cases element : node.isElement with
      | false =>
          rw [items?_cons_of_not element] at given
          rw [references_cons_of_not nodes element]
          exact ih given
      | true =>
          obtain ⟨item, rest, first, remaining, rfl⟩ :=
            (items?_cons_eq_some_iff element).mp given
          rw [references_cons, localName?_of_item? first, List.countP_cons, ← ih remaining]
          by_cases reference : item.kind = "cp"
          · simp [reference, Nat.add_comm]
          · simp [reference]

/-! ## What an element adds -/

theorem settings?_eq (attributes : Attributes) :
    settings? attributes =
      (attributes.mapM fun entry => (localName? entry.1).map (·, entry.2)).map
        Attributes.ofList := by
  simp only [settings?, Option.map_eq_bind]
  rfl

theorem addPart_element (tree : Collation) {name kind : Text} (attributes : Attributes)
    (children : List Node) (named : localName? name = some kind) :
    addPart tree (.element name attributes children) =
      if kind = "settings" ∧ tree.settings = none then
        (settings? attributes).map fun settings => { tree with settings := some settings }
      else if kind = "suppress_contractions" ∧ tree.suppressContractions = none then
        some { tree with suppressContractions := some (Node.charactersOfAll children) }
      else if kind = "optimize" ∧ tree.optimize = none then
        some { tree with optimize := some (Node.charactersOfAll children) }
      else if kind = "rules" ∧ tree.rules = none then
        (items? children).map fun items => { tree with rules := some items }
      else some tree := by
  simp only [addPart, Node.localName?, named, Node.characters, Node.children,
    Option.bind_eq_bind, Option.bind_some, Option.pure_def, Option.map_eq_bind]
  rfl

theorem exists_of_addPart {tree result : Collation} {part : Node}
    (added : addPart tree part = some result) :
    ∃ name attributes children kind, part = .element name attributes children ∧
      localName? name = some kind := by
  cases part with
  | text => cases added
  | aside => cases added
  | element name attributes children =>
      cases named : localName? name with
      | none => simp [addPart, Node.localName?, named] at added
      | some kind => exact ⟨name, attributes, children, kind, rfl, named⟩

theorem collation_element {name : Text} (attributes : Attributes) (children : List Node)
    (named : localName? name = some ("collation" : Text)) :
    collation (.element name attributes children) =
      ((children.filter Node.isElement).foldlM addPart {}).elim (.error .unreadableName) .ok := by
  simp only [collation, Node.localName?, named, if_true, Node.children]
  cases (children.filter Node.isElement).foldlM addPart {} <;> rfl

theorem exists_of_collation {element : Node} {tree : Collation}
    (given : collation element = .ok tree) :
    ∃ name attributes children, element = .element name attributes children ∧
      localName? name = some ("collation" : Text) ∧
      (children.filter Node.isElement).foldlM addPart {} = some tree := by
  cases element with
  | text => cases given
  | aside => cases given
  | element name attributes children =>
      cases named : localName? name with
      | none => simp [collation, Node.localName?, named] at given
      | some kind =>
          by_cases isCollation : kind = "collation"
          · subst isCollation
            refine ⟨name, attributes, children, rfl, named, ?_⟩
            rw [collation_element attributes children named] at given
            cases added : (children.filter Node.isElement).foldlM addPart {} with
            | none => simp [added] at given
            | some result =>
                rw [added] at given
                cases given
                rfl
          · simp [collation, Node.localName?, named, isCollation] at given

/-! ## Reading of readable names -/

/-- The names of all elements, at any depth, are readable. -/
inductive NamesReadable : Node → Prop where
  | element {name kind : Text} {attributes : Attributes} {children : List Node} :
      localName? name = some kind → (∀ child ∈ children, NamesReadable child) →
      NamesReadable (.element name attributes children)
  | text {content : Text} : NamesReadable (.text content)
  | aside : NamesReadable .aside

/-- The names of the settings of a collation are readable, given its nodes. -/
def SettingsReadable (nodes : List Node) : Prop :=
  ∀ name attributes children, .element name attributes children ∈ nodes →
    localName? name = some ("settings" : Text) →
    ∀ entry ∈ attributes, ∃ setting, localName? entry.1 = some setting

theorem exists_elementNames {nodes : List Node}
    (readable : ∀ node ∈ nodes, NamesReadable node) : ∃ names, elementNames nodes = some names := by
  refine Outcome.exists_mapM fun node member => ?_
  obtain ⟨listed, element⟩ := List.mem_filter.mp member
  cases readable node listed with
  | element named _ => exact ⟨_, named⟩
  | text => cases element
  | aside => cases element

theorem exists_items? {nodes : List Node}
    (each : ∀ node ∈ nodes, ∃ result, item? node = some result) :
    ∃ items, items? nodes = some items := by
  induction nodes with
  | nil => exact ⟨[], rfl⟩
  | cons node nodes ih =>
      obtain ⟨result, first⟩ := each node (by simp)
      obtain ⟨items, remaining⟩ := ih fun later member => each later (.tail _ member)
      exact ⟨result.toList ++ items, by simp [items?, first, remaining]⟩

theorem NamesReadable.exists_item? {node : Node} (readable : NamesReadable node) :
    ∃ result, item? node = some result := by
  induction readable with
  | text => exact ⟨none, rfl⟩
  | aside => exact ⟨none, rfl⟩
  | @element name kind attributes children named readable ih =>
      obtain ⟨names, namesRead⟩ := exists_elementNames readable
      by_cases extended : kind = "x"
      · subst extended
        obtain ⟨parts, partsRead⟩ := exists_items? ih
        rw [item?_of_extended named namesRead, partsRead]
        exact ⟨_, rfl⟩
      · exact ⟨_, item?_of_plain named extended namesRead⟩

theorem exists_settings? {attributes : Attributes}
    (readable : ∀ entry ∈ attributes, ∃ setting, localName? entry.1 = some setting) :
    ∃ settings, settings? attributes = some settings := by
  have named : ∃ named,
      attributes.mapM (fun entry => (localName? entry.1).map (·, entry.2)) = some named := by
    refine Outcome.exists_mapM fun entry member => ?_
    obtain ⟨setting, read⟩ := readable entry member
    exact ⟨(setting, entry.2), by simp [read]⟩
  obtain ⟨named, read⟩ := named
  rw [settings?_eq, read]
  exact ⟨Attributes.ofList named, rfl⟩

theorem exists_addPart {nodes : List Node} {part : Node} (tree : Collation)
    (settings : SettingsReadable nodes) (listed : part ∈ nodes) (element : part.isElement = true)
    (readable : NamesReadable part) : ∃ result, addPart tree part = some result := by
  cases readable with
  | text => cases element
  | aside => cases element
  | @element name kind attributes children named readable =>
      obtain ⟨items, itemsRead⟩ := exists_items? fun child member =>
        (readable child member).exists_item?
      rw [addPart_element tree attributes children named]
      split
      · next isSettings =>
          rw [isSettings.1] at named
          obtain ⟨given, settingsRead⟩ :=
            exists_settings? (settings name attributes children listed named)
          rw [settingsRead]
          exact ⟨_, rfl⟩
      split
      · exact ⟨_, rfl⟩
      split
      · exact ⟨_, rfl⟩
      split
      · rw [itemsRead]
        exact ⟨_, rfl⟩
      · exact ⟨_, rfl⟩

theorem exists_foldlM_addPart {parts : List Node} (tree : Collation)
    (each : ∀ part ∈ parts, ∀ tree, ∃ result, addPart tree part = some result) :
    ∃ result, parts.foldlM addPart tree = some result := by
  induction parts generalizing tree with
  | nil => exact ⟨tree, rfl⟩
  | cons part parts ih =>
      obtain ⟨next, first⟩ := each part (by simp) tree
      obtain ⟨result, remaining⟩ := ih next fun later member => each later (.tail _ member)
      refine ⟨result, ?_⟩
      rw [List.foldlM_cons, first]
      exact remaining

end Ldml

end Tailoring

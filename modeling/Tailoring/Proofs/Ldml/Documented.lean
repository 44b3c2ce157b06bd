import Tailoring.Proofs.Ldml.Reading
import Tailoring.Proofs.Outcome

/-!
# The collations of documents

What is read from a document: settings have different names, only extended items
have parts, and the character references of an extended item are counted among its
parts too.
-/

set_option autoImplicit false

namespace Tailoring

open Markup

/-- An item as documents have it. -/
inductive Item.Documented : Item → Prop where
  | plain {item : Item} : item.kind ≠ "x" → item.children = [] →
      item.anchor ≠ some ("cp" : Text) → Documented item
  | extended {item : Item} : item.kind = "x" → item.text = [] → item.anchor = none →
      (item.codePoints.length = item.children.countP fun part => part.kind = ("cp" : Text)) →
      (∀ part ∈ item.children, Documented part) → Documented item

/-- A collation as documents have it. -/
structure Collation.Documented (collation : Collation) : Prop where
  settingsOnce : ∀ settings ∈ collation.settings, (settings.map Prod.fst).Nodup
  items : ∀ items ∈ collation.rules, ∀ item ∈ items, item.Documented

/-! ## Names of attributes -/

namespace Markup.Attributes

theorem insert_of_mem {name : Text} (value : Text) {attributes : Attributes}
    (known : name ∈ attributes.map Prod.fst) :
    (insert name value attributes).map Prod.fst = attributes.map Prod.fst := by
  induction attributes with
  | nil => cases known
  | cons entry attributes ih =>
      obtain ⟨key, old⟩ := entry
      by_cases same : key = name
      · simp [insert, same]
      · have later : name ∈ attributes.map Prod.fst := by
          rcases List.mem_cons.mp known with here | later
          · exact absurd here.symm same
          · exact later
        simp [insert, same, ih later]

theorem insert_of_not_mem {name : Text} (value : Text) {attributes : Attributes}
    (new : name ∉ attributes.map Prod.fst) :
    insert name value attributes = attributes ++ [(name, value)] := by
  induction attributes with
  | nil => rfl
  | cons entry attributes ih =>
      obtain ⟨key, old⟩ := entry
      have other : key ≠ name := (List.ne_of_not_mem_cons new).symm
      simp [insert, other, ih (List.not_mem_of_not_mem_cons new)]

theorem nodup_insert (name value : Text) {attributes : Attributes}
    (once : (attributes.map Prod.fst).Nodup) :
    ((insert name value attributes).map Prod.fst).Nodup := by
  by_cases known : name ∈ attributes.map Prod.fst
  · rw [insert_of_mem value known]
    exact once
  · rw [insert_of_not_mem value known, List.map_append, List.map_singleton]
    refine List.nodup_append.mpr ⟨once, by simp, ?_⟩
    intro key listed new added same
    rw [same, List.mem_singleton.mp added] at listed
    exact known listed

theorem ofList_eq (pairs : List (Text × Text)) :
    ofList pairs =
      pairs.foldl (fun attributes entry => insert entry.1 entry.2 attributes) [] := rfl

theorem nodup_ofList (pairs : List (Text × Text)) : ((ofList pairs).map Prod.fst).Nodup := by
  suffices run : ∀ attributes : Attributes, (attributes.map Prod.fst).Nodup →
      ((pairs.foldl (fun attributes entry => insert entry.1 entry.2 attributes)
        attributes).map Prod.fst).Nodup by
    rw [ofList_eq]
    exact run [] (by simp)
  induction pairs with
  | nil => exact fun _ once => once
  | cons pair pairs ih => exact fun _ once => ih _ (nodup_insert _ _ once)

theorem ofList_of_nodup {pairs : List (Text × Text)} (once : (pairs.map Prod.fst).Nodup) :
    ofList pairs = pairs := by
  suffices run : ∀ attributes : Attributes, ((attributes ++ pairs).map Prod.fst).Nodup →
      pairs.foldl (fun attributes entry => insert entry.1 entry.2 attributes) attributes =
        attributes ++ pairs by
    rw [ofList_eq]
    exact run [] once
  clear once
  induction pairs with
  | nil => simp
  | cons pair pairs ih =>
      intro attributes once
      obtain ⟨name, value⟩ := pair
      have new : name ∉ attributes.map Prod.fst := by
        rw [List.map_append, List.nodup_append] at once
        exact fun known => once.2.2 name known name (by simp) rfl
      rw [List.foldl_cons, insert_of_not_mem value new, ih _ (by simpa using once)]
      simp

end Markup.Attributes

/-! ## What is read is documented -/

namespace Ldml

theorem anchor?_ne_reference (names : List Text) : anchor? names ≠ some ("cp" : Text) := by
  unfold anchor?
  split
  · split
    · simp
    · next other => simpa using other
  · simp

theorem documented_of_item? {node : Node} {item : Item}
    (given : item? node = some (some item)) : item.Documented := by
  induction node using Node.induction generalizing item with
  | text => cases given
  | aside => cases given
  | element name attributes children ih =>
      obtain ⟨item, names, same, -, -, codePoints, -, cases⟩ := item?_cases given
      cases same
      rcases cases with ⟨plain, -, anchor, noParts⟩ | ⟨extended, noText, noAnchor, parts⟩
      · refine .plain plain noParts ?_
        rw [anchor]
        exact anchor?_ne_reference names
      · refine .extended extended noText noAnchor ?_ ?_
        · rw [codePoints]
          exact length_references_of_items? parts
        · intro part member
          obtain ⟨child, listed, childGiven⟩ :=
            Outcome.exists_related (items?_eq_some_iff.mp parts) member
          exact ih child (List.mem_of_mem_filter listed) childGiven

theorem documented_of_items? {nodes : List Node} {items : List Item}
    (given : items? nodes = some items) {item : Item} (member : item ∈ items) :
    item.Documented := by
  obtain ⟨node, -, itemGiven⟩ := Outcome.exists_related (items?_eq_some_iff.mp given) member
  exact documented_of_item? itemGiven

theorem nodup_settings? {attributes settings : Attributes}
    (given : settings? attributes = some settings) : (settings.map Prod.fst).Nodup := by
  rw [settings?_eq] at given
  obtain ⟨named, -, rfl⟩ := Option.map_eq_some_iff.mp given
  exact Attributes.nodup_ofList named

theorem addPart_documented {tree result : Collation} {part : Node} (documented : tree.Documented)
    (added : addPart tree part = some result) : result.Documented := by
  obtain ⟨name, attributes, children, kind, rfl, named⟩ := exists_of_addPart added
  rw [addPart_element tree attributes children named] at added
  split at added
  · obtain ⟨settings, given, rfl⟩ := Option.map_eq_some_iff.mp added
    refine ⟨?_, documented.items⟩
    rintro _ ⟨⟩
    exact nodup_settings? given
  split at added
  · cases added
    exact ⟨documented.settingsOnce, documented.items⟩
  split at added
  · cases added
    exact ⟨documented.settingsOnce, documented.items⟩
  split at added
  · obtain ⟨items, given, rfl⟩ := Option.map_eq_some_iff.mp added
    refine ⟨documented.settingsOnce, ?_⟩
    rintro _ ⟨⟩ item member
    exact documented_of_items? given member
  · cases added
    exact documented

theorem foldlM_addPart_documented {tree result : Collation} {parts : List Node}
    (documented : tree.Documented) (added : parts.foldlM addPart tree = some result) :
    result.Documented := by
  induction parts generalizing tree with
  | nil =>
      cases added
      exact documented
  | cons part parts ih =>
      rw [List.foldlM_cons, Option.bind_eq_bind, Option.bind_eq_some_iff] at added
      obtain ⟨next, first, remaining⟩ := added
      exact ih (addPart_documented documented first) remaining

theorem documented_of_collation {element : Node} {tree : Collation}
    (given : collation element = .ok tree) : tree.Documented := by
  obtain ⟨_, _, _, -, -, added⟩ := exists_of_collation given
  refine foldlM_addPart_documented ⟨?_, ?_⟩ added
  · rintro _ ⟨⟩
  · rintro _ ⟨⟩

/-! ## Items without content -/

theorem references_eq_nil_iff {nodes : List Node} :
    references nodes = [] ↔ ∀ node ∈ nodes, node.localName? ≠ some ("cp" : Text) := by
  simp [references]

theorem filter_isElement_eq_nil_iff {nodes : List Node} {names : List Text}
    (readable : elementNames nodes = some names) :
    nodes.filter Node.isElement = [] ↔ references nodes = [] ∧ anchor? names = none := by
  rw [elementNames_eq_some_iff] at readable
  rw [references_eq_nil_iff]
  cases elements : nodes.filter Node.isElement with
  | nil =>
      rw [elements, List.forall₂_nil_left_iff] at readable
      subst readable
      refine iff_of_true rfl ⟨fun node member => ?_, rfl⟩
      have other : node.isElement = false := by
        simpa using List.filter_eq_nil_iff.mp elements node member
      simp [localName?_of_not other]
  | cons node rest =>
      rw [elements, List.forall₂_cons_left_iff] at readable
      obtain ⟨name, _, named, -, rfl⟩ := readable
      have member : node ∈ nodes := List.mem_of_mem_filter (elements ▸ List.mem_cons_self)
      refine iff_of_false (by simp) ?_
      rintro ⟨unreferenced, unanchored⟩
      have other : name ≠ "cp" := by
        rintro rfl
        exact unreferenced node member named
      simp [anchor?, other] at unanchored

theorem items?_eq_nil_iff {nodes : List Node} {items : List Item}
    (given : items? nodes = some items) : nodes.filter Node.isElement = [] ↔ items = [] := by
  rw [items?_eq_some_iff] at given
  constructor
  · intro none
    rwa [none, List.forall₂_nil_left_iff] at given
  · rintro rfl
    rwa [List.forall₂_nil_right_iff] at given

theorem isEmpty_of_item? {node : Node} {item : Item} (given : item? node = some (some item)) :
    item.isEmpty = true ↔
      node.children.filter Node.isElement = [] ∧
        (node.localName? = some ("x" : Text) ∨ node.characters = []) := by
  have isEmpty_iff : item.isEmpty = true ↔
      item.text = [] ∧ item.codePoints = [] ∧ item.anchor = none ∧ item.children = [] := by
    simp [Item.isEmpty, and_assoc]
  rw [isEmpty_iff, localName?_of_item? given]
  cases node with
  | text => cases given
  | aside => cases given
  | element name attributes children =>
      obtain ⟨item, names, same, -, readable, codePoints, -, kinds⟩ := item?_cases given
      cases same
      rw [Node.children, Node.characters]
      rcases kinds with ⟨plain, text, anchor, noParts⟩ | ⟨extended, noText, noAnchor, parts⟩
      · rw [text, codePoints, anchor, noParts, filter_isElement_eq_nil_iff readable]
        simp [plain, and_comm]
      · have counted := length_references_of_items? parts
        rw [items?_eq_nil_iff parts, codePoints, extended]
        constructor
        · rintro ⟨-, -, -, noParts⟩
          exact ⟨noParts, .inl rfl⟩
        · rintro ⟨noParts, -⟩
          rw [noParts, List.countP_nil, List.length_eq_zero_iff] at counted
          exact ⟨noText, counted, noAnchor, noParts⟩

end Ldml

end Tailoring

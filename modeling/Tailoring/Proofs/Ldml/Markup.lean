import Mathlib.Data.List.Nodup
import Tailoring.Proofs.Ldml.Documented

/-!
# Markup for collations

Every collation that is as documents have it is read from some element. The element
is written with names in an empty namespace, since a name may start with a brace,
and the character references of an extended item are handed out to those of its
parts that are references.
-/

set_option autoImplicit false

namespace Tailoring

open Markup

namespace Markup

/-- The name with an empty namespace, so that it is readable whatever it starts with. -/
def inNoNamespace (name : Text) : Text :=
  ('\x7b' : CodePoint) :: ('\x7d' : CodePoint) :: name

theorem localName?_inNoNamespace (name : Text) : localName? (inNoNamespace name) = some name :=
  rfl

/-- No element has two attributes of one name. -/
inductive Node.AttributesOnce : Node → Prop where
  | element {name : Text} {attributes : Attributes} {children : List Node} :
      (attributes.map Prod.fst).Nodup → (∀ child ∈ children, AttributesOnce child) →
      AttributesOnce (.element name attributes children)
  | text {content : Text} : AttributesOnce (.text content)
  | aside : AttributesOnce .aside

end Markup

namespace Ldml

/-- The element of a position. -/
def positionMarkup (name : Text) : Node :=
  .element (inNoNamespace name) [] []

/-- The element of a character reference. -/
def referenceMarkup (digits : Text) : Node :=
  .element (inNoNamespace "cp") [("hex", digits)] []

/-- The nodes of an item that is not extended. -/
def dataMarkup (text : Text) (anchor : Option Text) (codePoints : List Text) : List Node :=
  .text text :: (anchor.toList.map positionMarkup ++ codePoints.map referenceMarkup)

/-- The attributes of the element of an item, which may be a character reference
too. -/
def itemAttributes (digits before : Option Text) : Attributes :=
  before.toList.map (("before" : Text), ·) ++ digits.toList.map (("hex" : Text), ·)

mutual

/-- An element that stands for the item, with the digits of a character reference
if it is to be one. -/
def itemMarkup (digits : Option Text) : Item → Node
  | ⟨kind, text, codePoints, anchor, before, children⟩ =>
      .element (inNoNamespace kind) (itemAttributes digits before)
        (if kind = "x" then itemsMarkup codePoints children
         else dataMarkup text anchor codePoints)

/-- Elements that stand for the items. Those that are character references get the
digits, one after another. -/
def itemsMarkup (digits : List Text) : List Item → List Node
  | [] => []
  | item :: items =>
      itemMarkup (if item.kind = "cp" then digits.head? else none) item ::
        itemsMarkup (if item.kind = "cp" then digits.tail else digits) items

end

theorem lookup_before (digits before : Option Text) :
    (itemAttributes digits before).lookup ("before" : Text) = before := by
  cases before with
  | some value => rfl
  | none => cases digits <;> rfl

theorem lookup_hex (digits before : Option Text) :
    (itemAttributes digits before).lookup ("hex" : Text) = digits := by
  cases before <;> cases digits <;> rfl

theorem nodup_itemAttributes (digits before : Option Text) :
    ((itemAttributes digits before).map Prod.fst).Nodup := by
  have different : ("before" : Text) ≠ "hex" := by decide
  cases before <;> cases digits <;> simp [itemAttributes, different]

theorem itemMarkup_eq (digits : Option Text) (item : Item) :
    itemMarkup digits item =
      .element (inNoNamespace item.kind) (itemAttributes digits item.before)
        (if item.kind = "x" then itemsMarkup item.codePoints item.children
         else dataMarkup item.text item.anchor item.codePoints) := by
  cases item
  rw [itemMarkup]

theorem isElement_itemMarkup (digits : Option Text) (item : Item) :
    (itemMarkup digits item).isElement = true := by
  rw [itemMarkup_eq]
  rfl

theorem localName?_itemMarkup (digits : Option Text) (item : Item) :
    (itemMarkup digits item).localName? = some item.kind := by
  rw [itemMarkup_eq]
  rfl

theorem attribute?_itemMarkup (digits : Option Text) (item : Item) :
    (itemMarkup digits item).attribute? "hex" = digits := by
  rw [itemMarkup_eq]
  exact lookup_hex digits item.before

/-! ## The elements of items -/

theorem elementNames_itemsMarkup (digits : List Text) (items : List Item) :
    elementNames (itemsMarkup digits items) = some (items.map Item.kind) := by
  induction items generalizing digits with
  | nil => rfl
  | cons item items ih =>
      rw [itemsMarkup, elementNames_cons _ (isElement_itemMarkup _ item), localName?_itemMarkup, ih]
      rfl

theorem references_itemsMarkup {digits : List Text} {items : List Item}
    (each : digits.length = items.countP fun item => item.kind = ("cp" : Text)) :
    references (itemsMarkup digits items) = digits := by
  induction items generalizing digits with
  | nil =>
      rw [List.countP_nil, List.length_eq_zero_iff] at each
      rw [each]
      rfl
  | cons item items ih =>
      rw [List.countP_cons] at each
      rw [itemsMarkup, references_cons, localName?_itemMarkup, attribute?_itemMarkup]
      by_cases reference : item.kind = "cp"
      · cases digits with
        | nil => simp [reference] at each
        | cons first digits =>
            have remaining : references (itemsMarkup digits items) = digits :=
              ih (by simpa [reference] using each)
            simp [reference, remaining]
      · have remaining : references (itemsMarkup digits items) = digits :=
          ih (by simpa [reference] using each)
        simp [reference, remaining]

theorem items?_itemsMarkup {items : List Item} (digits : List Text)
    (read : ∀ item ∈ items, ∀ digits, item? (itemMarkup digits item) = some (some item)) :
    items? (itemsMarkup digits items) = some items := by
  induction items generalizing digits with
  | nil => rfl
  | cons item items ih =>
      rw [itemsMarkup, items?_cons_eq_some_iff (isElement_itemMarkup _ item)]
      exact ⟨item, items, read item (by simp) _,
        ih _ fun later member => read later (.tail _ member), rfl⟩

theorem attributesOnce_itemsMarkup {items : List Item} (digits : List Text)
    (once : ∀ item ∈ items, ∀ digits, (itemMarkup digits item).AttributesOnce) :
    ∀ node ∈ itemsMarkup digits items, node.AttributesOnce := by
  induction items generalizing digits with
  | nil => simp [itemsMarkup]
  | cons item items ih =>
      rw [itemsMarkup, List.forall_mem_cons]
      exact ⟨once item (by simp) _, ih _ fun later member => once later (.tail _ member)⟩

/-! ## The nodes of an item that is not extended -/

theorem elementNames_references (codePoints : List Text) :
    elementNames (codePoints.map referenceMarkup) =
      some (codePoints.map fun _ => ("cp" : Text)) := by
  induction codePoints with
  | nil => rfl
  | cons digits codePoints ih =>
      rw [List.map_cons, elementNames_cons _ rfl, ih]
      rfl

theorem references_references (codePoints : List Text) :
    references (codePoints.map referenceMarkup) = codePoints := by
  induction codePoints with
  | nil => rfl
  | cons digits codePoints ih =>
      rw [List.map_cons, references_cons, ih]
      rfl

theorem charactersOfAll_references (codePoints : List Text) :
    Node.charactersOfAll (codePoints.map referenceMarkup) = [] := by
  induction codePoints with
  | nil => rfl
  | cons digits codePoints ih =>
      rw [List.map_cons, Node.charactersOfAll, ih]
      rfl

theorem elementNames_dataMarkup (text : Text) (anchor : Option Text) (codePoints : List Text) :
    elementNames (dataMarkup text anchor codePoints) =
      some (anchor.toList ++ codePoints.map fun _ => ("cp" : Text)) := by
  have ofReferences := elementNames_references codePoints
  rw [dataMarkup, elementNames_cons_of_not _ rfl]
  cases anchor with
  | none => exact ofReferences
  | some name =>
      simp only [Option.toList_some, List.map_singleton, List.singleton_append]
      rw [elementNames_cons _ rfl, ofReferences]
      rfl

theorem references_dataMarkup (text : Text) {anchor : Option Text} (codePoints : List Text)
    (anchored : anchor ≠ some ("cp" : Text)) :
    references (dataMarkup text anchor codePoints) = codePoints := by
  have ofReferences := references_references codePoints
  rw [dataMarkup, references_cons, if_neg (by simp [Node.localName?]), List.nil_append]
  cases anchor with
  | none => exact ofReferences
  | some name =>
      have other : (positionMarkup name).localName? ≠ some ("cp" : Text) := anchored
      simp only [Option.toList_some, List.map_singleton, List.singleton_append]
      rw [references_cons, ofReferences, if_neg other, List.nil_append]

theorem charactersOfAll_dataMarkup (text : Text) (anchor : Option Text)
    (codePoints : List Text) :
    Node.charactersOfAll (dataMarkup text anchor codePoints) = text := by
  have ofReferences := charactersOfAll_references codePoints
  rw [dataMarkup, Node.charactersOfAll, Node.characters]
  cases anchor with
  | none => simp [ofReferences]
  | some name =>
      simp [Node.charactersOfAll, Node.characters, positionMarkup, ofReferences]

theorem anchor?_dataMarkup {anchor : Option Text} (codePoints : List Text)
    (anchored : anchor ≠ some ("cp" : Text)) :
    anchor? (anchor.toList ++ codePoints.map fun _ => ("cp" : Text)) = anchor := by
  cases anchor with
  | some name =>
      have other : name ≠ "cp" := fun same => anchored (congrArg some same)
      simp [anchor?, other]
  | none =>
      cases codePoints with
      | nil => rfl
      | cons => rfl

theorem attributesOnce_dataMarkup (text : Text) (anchor : Option Text) (codePoints : List Text) :
    ∀ node ∈ dataMarkup text anchor codePoints, node.AttributesOnce := by
  intro node member
  rw [dataMarkup, List.mem_cons, List.mem_append, List.mem_map, List.mem_map] at member
  rcases member with rfl | ⟨name, -, rfl⟩ | ⟨digits, -, rfl⟩
  · exact .text
  · exact .element (by simp) (by simp)
  · exact .element (by simp) (by simp)

/-! ## Reading the markup -/

end Ldml

theorem Item.Documented.item?_markup {item : Item} (documented : item.Documented)
    (digits : Option Text) : Ldml.item? (Ldml.itemMarkup digits item) = some (some item) := by
  induction documented generalizing digits with
  | @plain item plain noParts anchored =>
      rw [Ldml.itemMarkup_eq, if_neg plain,
        Ldml.item?_of_plain (localName?_inNoNamespace item.kind) plain
          (Ldml.elementNames_dataMarkup _ _ _),
        Ldml.charactersOfAll_dataMarkup, Ldml.references_dataMarkup _ _ anchored,
        Ldml.anchor?_dataMarkup _ anchored, Ldml.lookup_before]
      cases item
      cases noParts
      rfl
  | @extended item extended noText noAnchor each _ ih =>
      have named : localName? (inNoNamespace item.kind) = some ("x" : Text) := by
        rw [localName?_inNoNamespace, extended]
      rw [Ldml.itemMarkup_eq, if_pos extended,
        Ldml.item?_of_extended named (Ldml.elementNames_itemsMarkup _ _),
        Ldml.items?_itemsMarkup _ ih, Ldml.references_itemsMarkup each, Ldml.lookup_before]
      cases item
      cases extended
      cases noText
      cases noAnchor
      rfl

theorem Item.Documented.attributesOnce_markup {item : Item} (documented : item.Documented)
    (digits : Option Text) : (Ldml.itemMarkup digits item).AttributesOnce := by
  induction documented generalizing digits with
  | @plain item plain _ _ =>
      rw [Ldml.itemMarkup_eq, if_neg plain]
      exact .element (Ldml.nodup_itemAttributes _ _) (Ldml.attributesOnce_dataMarkup _ _ _)
  | @extended item extended _ _ _ _ ih =>
      rw [Ldml.itemMarkup_eq, if_pos extended]
      exact .element (Ldml.nodup_itemAttributes _ _) (Ldml.attributesOnce_itemsMarkup _ ih)

/-! ## The markup of a collation -/

namespace Ldml

/-- The element of settings. -/
def settingsMarkup (settings : Attributes) : Node :=
  .element (inNoNamespace "settings")
    (settings.map fun entry => (inNoNamespace entry.1, entry.2)) []

/-- The element of a set of characters. -/
def charactersMarkup (name content : Text) : Node :=
  .element (inNoNamespace name) [] [.text content]

/-- The element of rules. -/
def rulesMarkup (items : List Item) : Node :=
  .element (inNoNamespace "rules") [] (itemsMarkup [] items)

/-- The elements of the parts that a collation has. -/
def partsMarkup (tree : Collation) : List Node :=
  tree.settings.toList.map settingsMarkup ++
    tree.suppressContractions.toList.map (charactersMarkup "suppress_contractions") ++
    tree.optimize.toList.map (charactersMarkup "optimize") ++
    tree.rules.toList.map rulesMarkup

/-- An element that stands for the collation. -/
def collationMarkup (tree : Collation) : Node :=
  .element (inNoNamespace "collation") [] (partsMarkup tree)

theorem settings?_markup {settings : Attributes} (once : (settings.map Prod.fst).Nodup) :
    settings? (settings.map fun entry => (inNoNamespace entry.1, entry.2)) = some settings := by
  have named : (settings.map fun entry => (inNoNamespace entry.1, entry.2)).mapM
      (fun entry => (localName? entry.1).map (·, entry.2)) = some settings := by
    rw [Outcome.mapM_eq_some_iff, List.forall₂_map_left_iff]
    exact List.forall₂_same.mpr fun _ _ => rfl
  rw [settings?_eq, named]
  exact congrArg some (Attributes.ofList_of_nodup once)

theorem foldlM_settingsMarkup {settings : Option Attributes}
    (once : ∀ given ∈ settings, (given.map Prod.fst).Nodup) :
    (settings.toList.map settingsMarkup).foldlM addPart {} = some { settings } := by
  cases settings with
  | none => rfl
  | some settings =>
      simp only [Option.toList_some, List.map_singleton, List.foldlM_cons, List.foldlM_nil]
      rw [settingsMarkup, addPart_element _ _ _ (localName?_inNoNamespace _), if_pos ⟨rfl, rfl⟩,
        settings?_markup (once settings rfl)]
      rfl

theorem foldlM_suppressMarkup (settings : Option Attributes) (content : Option Text) :
    (content.toList.map (charactersMarkup "suppress_contractions")).foldlM addPart { settings } =
      some { settings, suppressContractions := content } := by
  cases content with
  | none => rfl
  | some content =>
      have different : ("suppress_contractions" : Text) ≠ "settings" := by decide
      simp only [Option.toList_some, List.map_singleton, List.foldlM_cons, List.foldlM_nil]
      rw [charactersMarkup, addPart_element _ _ _ (localName?_inNoNamespace _)]
      simp [different, Node.charactersOfAll, Node.characters]

theorem foldlM_optimizeMarkup (settings : Option Attributes)
    (suppressContractions content : Option Text) :
    (content.toList.map (charactersMarkup "optimize")).foldlM addPart
        { settings, suppressContractions } =
      some { settings, suppressContractions, optimize := content } := by
  cases content with
  | none => rfl
  | some content =>
      have different : ("optimize" : Text) ≠ "settings" ∧
          ("optimize" : Text) ≠ "suppress_contractions" := by decide
      simp only [Option.toList_some, List.map_singleton, List.foldlM_cons, List.foldlM_nil]
      rw [charactersMarkup, addPart_element _ _ _ (localName?_inNoNamespace _)]
      simp [different, Node.charactersOfAll, Node.characters]

theorem foldlM_rulesMarkup (settings : Option Attributes)
    (suppressContractions optimize : Option Text) {rules : Option (List Item)}
    (documented : ∀ items ∈ rules, ∀ item ∈ items, item.Documented) :
    (rules.toList.map rulesMarkup).foldlM addPart { settings, suppressContractions, optimize } =
      some { settings, suppressContractions, optimize, rules } := by
  cases rules with
  | none => rfl
  | some items =>
      have different : ("rules" : Text) ≠ "settings" ∧ ("rules" : Text) ≠ "suppress_contractions" ∧
          ("rules" : Text) ≠ "optimize" := by decide
      have read : items? (itemsMarkup [] items) = some items :=
        items?_itemsMarkup [] fun item member => (documented items rfl item member).item?_markup
      simp only [Option.toList_some, List.map_singleton, List.foldlM_cons, List.foldlM_nil]
      rw [rulesMarkup, addPart_element _ _ _ (localName?_inNoNamespace _)]
      simp [different, read]

theorem isElement_of_mem_partsMarkup {tree : Collation} {node : Node}
    (member : node ∈ partsMarkup tree) : node.isElement = true := by
  simp only [partsMarkup, List.mem_append, List.mem_map] at member
  rcases member with ((⟨_, -, rfl⟩ | ⟨_, -, rfl⟩) | ⟨_, -, rfl⟩) | ⟨_, -, rfl⟩
  all_goals rfl

theorem collation_markup {tree : Collation} (documented : tree.Documented) :
    collation (collationMarkup tree) = .ok tree := by
  have elements : (partsMarkup tree).filter Node.isElement = partsMarkup tree :=
    List.filter_eq_self.mpr fun _ => isElement_of_mem_partsMarkup
  have added : (partsMarkup tree).foldlM addPart {} = some tree := by
    simp only [partsMarkup, List.foldlM_append, foldlM_settingsMarkup documented.settingsOnce,
      foldlM_suppressMarkup, foldlM_optimizeMarkup, foldlM_rulesMarkup _ _ _ documented.items,
      Option.bind_eq_bind, Option.bind_some]
  rw [collationMarkup, collation_element _ _ (localName?_inNoNamespace _), elements, added]
  rfl

theorem inNoNamespace_injective : Function.Injective inNoNamespace := by
  intro name name' same
  exact (List.cons.inj (List.cons.inj same).2).2

theorem attributesOnce_collationMarkup {tree : Collation} (documented : tree.Documented) :
    (collationMarkup tree).AttributesOnce := by
  refine .element (by simp) fun node member => ?_
  simp only [partsMarkup, List.mem_append, List.mem_map, Option.mem_toList] at member
  rcases member with ((⟨settings, given, rfl⟩ | ⟨_, -, rfl⟩) | ⟨_, -, rfl⟩) | ⟨items, given, rfl⟩
  · refine .element ?_ (by simp)
    have names : (settings.map fun entry => (inNoNamespace entry.1, entry.2)).map Prod.fst =
        (settings.map Prod.fst).map inNoNamespace := by
      simp [Function.comp_def]
    rw [names]
    exact List.Nodup.map inNoNamespace_injective (documented.settingsOnce settings given)
  · exact .element (by simp) (by simpa using Node.AttributesOnce.text)
  · exact .element (by simp) (by simpa using Node.AttributesOnce.text)
  · refine .element (by simp) (attributesOnce_itemsMarkup [] fun item member => ?_)
    exact (documented.items items given item member).attributesOnce_markup

/-! ## Collations and their elements -/

/-- The collations that elements stand for are the documented ones. An item is empty
if its element has no elements in it and, unless it is extended, no characters. -/
theorem collation_documented :
    (∀ tree : Collation,
      (∃ element : Node, element.AttributesOnce ∧ collation element = .ok tree) ↔
        tree.Documented) ∧
      ∀ (node : Node) (item : Item), item? node = some (some item) →
        (item.isEmpty = true ↔
          node.children.filter Node.isElement = [] ∧
            (node.localName? = some ("x" : Text) ∨ node.characters = [])) := by
  refine ⟨fun tree => ⟨?_, ?_⟩, fun node item => isEmpty_of_item?⟩
  · rintro ⟨element, -, given⟩
    exact documented_of_collation given
  · intro documented
    exact ⟨collationMarkup tree, attributesOnce_collationMarkup documented,
      collation_markup documented⟩

/-- An extended item in an extended item, after a character reference with text of its
own. -/
theorem collation_documented_nested :
    (∃ element : Node, element.AttributesOnce ∧
      collation element = .ok
        { settings := some [("strength", "primary")],
          rules := some [{ kind := "x", codePoints := ["61"],
                           children := [{ kind := "cp", text := "b" }, { kind := "x" }] }] }) ∧
      ({ kind := "x" } : Item).isEmpty = true := by
  constructor
  · refine (collation_documented.1 _).mpr ⟨?_, ?_⟩
    · rintro _ ⟨⟩
      simp
    · rintro _ ⟨⟩ item member
      rw [List.mem_singleton.mp member]
      refine .extended rfl rfl rfl (by decide) fun part listed => ?_
      rcases List.mem_cons.mp listed with rfl | later
      · exact .plain (by decide) rfl (by simp)
      · rw [List.mem_singleton.mp later]
        exact .extended rfl rfl rfl rfl (by simp)
  · have given : item? (.element "x" [] [.text "a"]) = some (some { kind := "x" }) := by
      decide
    exact (collation_documented.2 _ _ given).mpr ⟨rfl, .inl rfl⟩

end Ldml

end Tailoring

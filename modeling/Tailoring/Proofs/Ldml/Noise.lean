import Tailoring.Proofs.Ldml.Reading

/-!
# Noise in documents

What is read of an element depends on where it stands. The characters between the
parts of a collation, between its rules and between the parts of extended items are
not read at all; elsewhere the characters count, but not how they are broken up.
Asides and namespaces never count. So documents that differ only in this give the
same collation.
-/

set_option autoImplicit false

namespace Tailoring.Ldml

open Markup

/-- Where nodes stand in the element of a collation. -/
inductive Region where
  /-- Among the parts of the collation. -/
  | parts
  /-- Among rules, or among the parts of an extended item. -/
  | rules
  /-- Anywhere else. -/
  | data
  deriving DecidableEq

/-- Where the children of an element stand, given its local name. -/
def Region.inside (region : Region) (name : Option Text) : Region :=
  if region = .parts ∧ name = some ("rules" : Text) ∨ region = .rules ∧ name = some ("x" : Text)
  then .rules else .data

/-- Nodes that differ in asides, in the namespaces of elements, in how characters are
broken up, and in all characters that are not data. -/
inductive Noise : Region → List Node → List Node → Prop where
  | refl {region nodes} : Noise region nodes nodes
  | symm {region nodes nodes'} : Noise region nodes nodes' → Noise region nodes' nodes
  | trans {region nodes nodes' nodes''} :
      Noise region nodes nodes' → Noise region nodes' nodes'' → Noise region nodes nodes''
  | cons {region node nodes nodes'} :
      Noise region nodes nodes' → Noise region (node :: nodes) (node :: nodes')
  | aside {region nodes} : Noise region nodes (.aside :: nodes)
  | text {region content nodes} :
      region ≠ .data ∨ content = [] → Noise region nodes (.text content :: nodes)
  | split {region front back nodes} :
      Noise region (.text (front ++ back) :: nodes) (.text front :: .text back :: nodes)
  | element {region name name' attributes children children' nodes} :
      localName? name' = localName? name →
      Noise (region.inside (localName? name)) children children' →
      Noise region (.element name attributes children :: nodes)
        (.element name' attributes children' :: nodes)

/-! ## What is read in a region -/

/-- What is read of nodes, besides the names and the character references. -/
inductive View where
  | additions (add : Collation → Option Collation)
  | items (items : Option (List Item))
  | characters (characters : Text)

/-- What is read of nodes where they stand. -/
def Region.view : Region → List Node → View
  | parts, nodes => .additions fun tree => (nodes.filter Node.isElement).foldlM addPart tree
  | rules, nodes => .items (items? nodes)
  | data, nodes => .characters (Node.charactersOfAll nodes)

/-- The same is read of both lists of nodes. -/
structure Alike (region : Region) (nodes nodes' : List Node) : Prop where
  names : elementNames nodes = elementNames nodes'
  references : references nodes = references nodes'
  view : region.view nodes = region.view nodes'

namespace Alike

variable {region : Region} {nodes nodes' nodes'' : List Node}

theorem refl : Alike region nodes nodes :=
  ⟨rfl, rfl, rfl⟩

theorem symm (alike : Alike region nodes nodes') : Alike region nodes' nodes :=
  ⟨alike.names.symm, alike.references.symm, alike.view.symm⟩

theorem trans (first : Alike region nodes nodes') (second : Alike region nodes' nodes'') :
    Alike region nodes nodes'' :=
  ⟨first.names.trans second.names, first.references.trans second.references,
    first.view.trans second.view⟩

theorem additions (alike : Alike .parts nodes nodes') (tree : Collation) :
    (nodes.filter Node.isElement).foldlM addPart tree =
      (nodes'.filter Node.isElement).foldlM addPart tree :=
  congrFun (View.additions.inj alike.view) tree

theorem items (alike : Alike .rules nodes nodes') : items? nodes = items? nodes' :=
  View.items.inj alike.view

theorem characters (alike : Alike .data nodes nodes') :
    Node.charactersOfAll nodes = Node.charactersOfAll nodes' :=
  View.characters.inj alike.view

/-- A node that is no element is not seen unless it has characters among data. -/
theorem unseen {node : Node} (other : node.isElement = false)
    (silent : region = .data → node.characters = []) : Alike region nodes (node :: nodes) where
  names := (elementNames_cons_of_not nodes other).symm
  references := (references_cons_of_not nodes other).symm
  view := by
    cases region with
    | parts => rw [Region.view, Region.view, List.filter_cons_of_neg (by simp [other])]
    | rules => rw [Region.view, Region.view, items?_cons_of_not other]
    | data =>
        rw [Region.view, Region.view, Node.charactersOfAll, silent rfl]
        rfl

/-- Nodes go on alike after nodes that are read alike. -/
theorem cons {node node' : Node} (alike : Alike region nodes nodes')
    (element : node.isElement = node'.isElement) (name : node.localName? = node'.localName?)
    (hex : node.attribute? "hex" = node'.attribute? "hex")
    (part : region = .parts → ∀ tree, addPart tree node = addPart tree node')
    (item : region = .rules → item? node = item? node')
    (characters : region = .data → node.characters = node'.characters) :
    Alike region (node :: nodes) (node' :: nodes') where
  names := by
    cases isElement : node.isElement with
    | false =>
        rw [elementNames_cons_of_not _ isElement,
          elementNames_cons_of_not _ (element ▸ isElement), alike.names]
    | true =>
        rw [elementNames_cons _ isElement, elementNames_cons _ (element ▸ isElement), name,
          alike.names]
  references := by
    rw [references_cons, references_cons, name, hex, alike.references]
  view := by
    cases region with
    | parts =>
        refine congrArg View.additions (funext fun tree => ?_)
        cases isElement : node.isElement with
        | false =>
            rw [List.filter_cons_of_neg (by simp [isElement]),
              List.filter_cons_of_neg (by simp [← element, isElement]), alike.additions]
        | true =>
            rw [List.filter_cons_of_pos isElement,
              List.filter_cons_of_pos (by rw [← element, isElement]), List.foldlM_cons,
              List.foldlM_cons, part rfl]
            exact congrArg _ (funext alike.additions)
    | rules => rw [Region.view, Region.view, items?, items?, item rfl, alike.items]
    | data =>
        rw [Region.view, Region.view, Node.charactersOfAll, Node.charactersOfAll,
          characters rfl, alike.characters]

theorem split {front back : Text} :
    Alike region (.text (front ++ back) :: nodes) (.text front :: .text back :: nodes) := by
  by_cases data : region = .data
  · subst data
    refine ⟨rfl, rfl, ?_⟩
    simp [Region.view, Node.charactersOfAll, Node.characters]
  · have unseenText : ∀ {content nodes}, Alike region nodes (.text content :: nodes) :=
      unseen rfl fun same => absurd same data
    exact unseenText.symm.trans (unseenText.trans unseenText)

end Alike

/-! ## Elements -/

section Element

variable {name name' : Text} {attributes : Attributes} {children children' : List Node}

theorem item?_of_alike (renamed : localName? name' = localName? name)
    (alike : Alike (Region.rules.inside (localName? name)) children children') :
    item? (.element name attributes children) = item? (.element name' attributes children') := by
  simp only [item?, renamed]
  cases named : localName? name with
  | none => rfl
  | some kind =>
      rw [named] at alike
      rw [alike.names, alike.references]
      by_cases extended : kind = "x"
      · have inside : Region.rules.inside (some kind) = .rules := by
          simp [Region.inside, extended]
        rw [inside] at alike
        simp [extended, alike.items]
      · have inside : Region.rules.inside (some kind) = .data := by
          simp [Region.inside, extended]
        rw [inside] at alike
        simp [extended, alike.characters]

theorem addPart_of_alike (renamed : localName? name' = localName? name)
    (alike : Alike (Region.parts.inside (localName? name)) children children')
    (tree : Collation) :
    addPart tree (.element name attributes children) =
      addPart tree (.element name' attributes children') := by
  cases named : localName? name with
  | none => simp [addPart, Node.localName?, renamed, named]
  | some kind =>
      rw [named] at alike
      rw [addPart_element tree _ _ named, addPart_element tree _ _ (renamed.trans named)]
      by_cases rules : kind = "rules"
      · have inside : Region.parts.inside (some kind) = .rules := by
          simp [Region.inside, rules]
        have different : kind ≠ "suppress_contractions" ∧ kind ≠ "optimize" := by
          rw [rules]
          decide
        rw [inside] at alike
        simp [different, alike.items]
      · have inside : Region.parts.inside (some kind) = .data := by
          simp [Region.inside, rules]
        rw [inside] at alike
        simp [rules, alike.characters]

theorem characters_of_alike
    (alike : Alike (Region.data.inside (localName? name)) children children') :
    (Node.element name attributes children).characters =
      (Node.element name' attributes children').characters := by
  have inside : Region.data.inside (localName? name) = .data := by
    simp [Region.inside]
  rw [inside] at alike
  rw [Node.characters, Node.characters, alike.characters]

end Element

theorem Noise.alike {region : Region} {nodes nodes' : List Node}
    (noise : Noise region nodes nodes') : Alike region nodes nodes' := by
  induction noise with
  | refl => exact .refl
  | symm _ ih => exact ih.symm
  | trans _ _ first second => exact first.trans second
  | cons _ ih => exact ih.cons rfl rfl rfl (fun _ _ => rfl) (fun _ => rfl) fun _ => rfl
  | aside => exact .unseen rfl fun _ => rfl
  | text unread => exact .unseen rfl fun data => unread.resolve_left (absurd data)
  | split => exact .split
  | @element region name name' attributes children children' nodes renamed _ ih =>
      refine Alike.refl.cons rfl renamed.symm rfl ?_ ?_ ?_
      · rintro rfl
        exact addPart_of_alike renamed ih
      · rintro rfl
        exact item?_of_alike renamed ih
      · rintro rfl
        exact characters_of_alike ih

/-! ## The collation -/

/-- Noise does not reach the collation. If all names are readable, there is one. -/
theorem collation_of_noise {name name' : Text} (attributes : Attributes)
    {children children' : List Node} (named : localName? name = some ("collation" : Text))
    (readable : ∀ child ∈ children, NamesReadable child)
    (renamed : localName? name' = localName? name) (noise : Noise .parts children children') :
    collation (.element name' attributes children') =
        collation (.element name attributes children) ∧
      (SettingsReadable children →
        ∃ tree, collation (.element name attributes children) = .ok tree) := by
  rw [collation_element attributes children named,
    collation_element attributes children' (renamed.trans named)]
  refine ⟨by rw [noise.alike.additions], fun settings => ?_⟩
  have added : ∃ tree, (children.filter Node.isElement).foldlM addPart {} = some tree := by
    refine exists_foldlM_addPart {} fun part member tree => ?_
    obtain ⟨listed, element⟩ := List.mem_filter.mp member
    exact exists_addPart tree settings listed element (readable part listed)
  obtain ⟨tree, added⟩ := added
  rw [added]
  exact ⟨tree, rfl⟩

/-- A namespace, a comment between rules and one inside characters, characters
between rules, and no line break before them. -/
theorem collation_of_noise_in_rules :
    collation (.element "\x7bu\x7dcollation" []
        [.element "\x7bu\x7drules" []
          [.aside, .element "reset" [] [.text "a"], .text "-",
            .element "p" [] [.text "b", .aside, .text "c"]]]) =
      .ok { rules := some [{ kind := "reset", text := "a" }, { kind := "p", text := "bc" }] } := by
  have halves : Noise .data [.text (("b" : Text) ++ ("c" : Text))] [.text "b", .text "c"] :=
    .split
  have broken : Noise .data [.text "bc"] [.text "b", .aside, .text "c"] :=
    .trans halves (.cons .aside)
  have rules : Noise .rules
      [.element "reset" [] [.text "a"], .element "p" [] [.text "bc"]]
      [.aside, .element "reset" [] [.text "a"], .text "-",
        .element "p" [] [.text "b", .aside, .text "c"]] :=
    .trans .aside (.cons (.cons (.trans (.text (.inl (by decide))) (.cons (.element rfl broken)))))
  have noise : Noise .parts
      [.text "\n", .element "rules" []
        [.element "reset" [] [.text "a"], .element "p" [] [.text "bc"]]]
      [.element "\x7bu\x7drules" []
        [.aside, .element "reset" [] [.text "a"], .text "-",
          .element "p" [] [.text "b", .aside, .text "c"]]] :=
    .trans (.symm (.text (.inl (by decide)))) (.element (by decide) rules)
  have readable : ∀ child ∈ [.text "\n", .element "rules" []
      [.element "reset" [] [.text "a"], .element "p" [] [.text "bc"]]], NamesReadable child := by
    refine List.forall_mem_cons.mpr ⟨.text, List.forall_mem_singleton.mpr (.element rfl ?_)⟩
    exact List.forall_mem_cons.mpr ⟨.element rfl (List.forall_mem_singleton.mpr .text),
      List.forall_mem_singleton.mpr (.element rfl (List.forall_mem_singleton.mpr .text))⟩
  have named : localName? "collation" = some ("collation" : Text) := rfl
  rw [(collation_of_noise [] named readable (by decide) noise).1]
  decide

end Tailoring.Ldml

import Mathlib.Data.List.Perm.Basic
import Tailoring.Proofs.Ldml.Reading

/-!
# The parts of a collation

The elements of a collation are read in one go, but each part comes from the first
element of its name alone. So it does not matter where the others are, or whether
they are there at all.
-/

set_option autoImplicit false

namespace Tailoring

def Markup.Node.attributes : Markup.Node → Markup.Attributes
  | element _ attributes _ => attributes
  | text _ => []
  | aside => []

/-- What a collation says, and what another says where it is silent. -/
def Collation.orElse (tree later : Collation) : Collation where
  settings := tree.settings.or later.settings
  suppressContractions := tree.suppressContractions.or later.suppressContractions
  optimize := tree.optimize.or later.optimize
  rules := tree.rules.or later.rules

namespace Ldml

open Markup

/-- The first element of a local name among nodes. -/
def firstNamed? (name : Text) (nodes : List Node) : Option Node :=
  nodes.find? fun node => node.localName? == some name

/-- A part of a collation: the name of its elements and what is read from one. -/
structure Part (Value : Type) where
  name : Text
  read : Node → Option Value

namespace Part

def settings : Part Attributes where
  name := "settings"
  read node := settings? node.attributes

def suppressContractions : Part Text where
  name := "suppress_contractions"
  read node := some node.characters

def optimize : Part Text where
  name := "optimize"
  read node := some node.characters

def rules : Part (List Item) where
  name := "rules"
  read node := items? node.children

variable {Value : Type} (part : Part Value)

/-- What the first element of the name says. -/
def first (nodes : List Node) : Option Value :=
  (firstNamed? part.name nodes).bind part.read

/-- The first element of the name can be read, if there is one. -/
def Readable (nodes : List Node) : Prop :=
  ∀ node ∈ firstNamed? part.name nodes, ∃ value, part.read node = some value

theorem first_cons (node : Node) (nodes : List Node) :
    part.first (node :: nodes) =
      if node.localName? = some part.name then part.read node else part.first nodes := by
  by_cases named : node.localName? = some part.name
  · simp [first, firstNamed?, named]
  · simp [first, firstNamed?, named]

theorem readable_cons {node : Node} {nodes : List Node} :
    part.Readable (node :: nodes) ↔
      if node.localName? = some part.name then ∃ value, part.read node = some value
      else part.Readable nodes := by
  by_cases named : node.localName? = some part.name
  · simp [Readable, firstNamed?, named]
  · simp [Readable, firstNamed?, named]

theorem first_eq_none_iff {nodes : List Node} (readable : part.Readable nodes) :
    part.first nodes = none ↔ firstNamed? part.name nodes = none := by
  cases found : firstNamed? part.name nodes with
  | none => simp [first, found]
  | some node =>
      obtain ⟨value, read⟩ := readable node found
      simp [first, found, read]

/-- A part that is read element by element is taken from the first of them, unless it
is there already. -/
theorem first_cons_of_readable (kept : Option Value) {node : Node} (nodes : List Node)
    (readable : kept = none → part.Readable [node]) :
    kept.or (part.first (node :: nodes)) = (kept.or (part.first [node])).or (part.first nodes) := by
  cases kept with
  | some value => rfl
  | none =>
      have readable := readable rfl
      rw [readable_cons] at readable
      rw [first_cons, first_cons]
      by_cases named : node.localName? = some part.name
      · rw [if_pos named] at readable ⊢
        obtain ⟨value, read⟩ := readable
        simp [named, read]
      · simp [named, first, firstNamed?]

theorem readable_cons_iff (kept : Option Value) (node : Node) (nodes : List Node) :
    (kept = none → part.Readable (node :: nodes)) ↔
      (kept = none → part.Readable [node]) ∧
        (kept.or (part.first [node]) = none → part.Readable nodes) := by
  cases kept with
  | some value => simp
  | none =>
      simp only [readable_cons, first_cons, Option.none_or, true_implies]
      by_cases named : node.localName? = some part.name
      · cases read : part.read node with
        | none => simp [named]
        | some value => simp [named]
      · simp [named, first, Readable, firstNamed?]

end Part

/-- Each part taken from the first element of its name, on its own. -/
def ofFirstParts (nodes : List Node) : Collation where
  settings := Part.settings.first nodes
  suppressContractions := Part.suppressContractions.first nodes
  optimize := Part.optimize.first nodes
  rules := Part.rules.first nodes

/-- What has to be readable for elements to be added to a collation. -/
structure PartsReadable (tree : Collation) (nodes : List Node) : Prop where
  named : ∀ node ∈ nodes, ∃ kind, node.localName? = some kind
  settings : tree.settings = none → Part.settings.Readable nodes
  rules : tree.rules = none → Part.rules.Readable nodes

/-! ## Reading in one go -/

section Element

variable {name kind : Text} (attributes : Attributes) (children : List Node)

theorem ofFirstParts_element (named : localName? name = some kind) :
    ofFirstParts [.element name attributes children] =
      { settings := if kind = "settings" then settings? attributes else none
        suppressContractions :=
          if kind = "suppress_contractions" then some (Node.charactersOfAll children) else none
        optimize := if kind = "optimize" then some (Node.charactersOfAll children) else none
        rules := if kind = "rules" then items? children else none } := by
  simp only [ofFirstParts, Part.first_cons, Node.localName?, named, Option.some.injEq]
  rfl

theorem partsReadable_element (tree : Collation) (named : localName? name = some kind) :
    PartsReadable tree [.element name attributes children] ↔
      (tree.settings = none → kind = "settings" →
          ∃ settings, settings? attributes = some settings) ∧
        (tree.rules = none → kind = "rules" → ∃ items, items? children = some items) := by
  have settings : Part.settings.Readable [.element name attributes children] ↔
      (kind = "settings" → ∃ settings, settings? attributes = some settings) := by
    simp [Part.Readable, firstNamed?, Node.localName?, named, Part.settings, Node.attributes]
  have rules : Part.rules.Readable [.element name attributes children] ↔
      (kind = "rules" → ∃ items, items? children = some items) := by
    simp [Part.Readable, firstNamed?, Node.localName?, named, Part.rules, Node.children]
  constructor
  · intro readable
    exact ⟨fun missing => settings.mp (readable.settings missing),
      fun missing => rules.mp (readable.rules missing)⟩
  · intro readable
    refine ⟨?_, fun missing => settings.mpr (readable.1 missing),
      fun missing => rules.mpr (readable.2 missing)⟩
    exact List.forall_mem_singleton.mpr ⟨kind, named⟩

end Element

theorem addPart_eq_some_iff {tree result : Collation} {node : Node} :
    addPart tree node = some result ↔
      PartsReadable tree [node] ∧ result = tree.orElse (ofFirstParts [node]) := by
  by_cases unnamed : node.localName? = none
  · have fails : addPart tree node = none := by simp [addPart, unnamed]
    refine iff_of_false (by simp [fails]) ?_
    rintro ⟨readable, -⟩
    obtain ⟨kind, named⟩ := readable.named node (by simp)
    simp [unnamed] at named
  cases node with
  | text content => exact absurd rfl unnamed
  | aside => exact absurd rfl unnamed
  | element name attributes children =>
      obtain ⟨kind, named⟩ := Option.ne_none_iff_exists'.mp unnamed
      rw [addPart_element tree attributes children named, ofFirstParts_element _ _ named,
        partsReadable_element _ _ _ named]
      obtain ⟨settings, suppressContractions, optimize, rules⟩ := tree
      by_cases isSettings : kind = "settings"
      · have others : kind ≠ "suppress_contractions" ∧ kind ≠ "optimize" ∧ kind ≠ "rules" := by
          rw [isSettings]
          decide
        cases settings with
        | some settings => simp [Collation.orElse, others, eq_comm]
        | none =>
            cases settings? attributes <;>
              simp [Collation.orElse, others, eq_true isSettings, eq_comm]
      by_cases isSuppress : kind = "suppress_contractions"
      · have others : kind ≠ "optimize" ∧ kind ≠ "rules" := by
          rw [isSuppress]
          decide
        cases suppressContractions <;>
          simp [Collation.orElse, isSettings, others, eq_true isSuppress, eq_comm]
      by_cases isOptimize : kind = "optimize"
      · have other : kind ≠ "rules" := by
          rw [isOptimize]
          decide
        cases optimize <;>
          simp [Collation.orElse, isSettings, isSuppress, other, eq_true isOptimize, eq_comm]
      by_cases isRules : kind = "rules"
      · cases rules with
        | some rules => simp [Collation.orElse, isSettings, isSuppress, isOptimize, eq_comm]
        | none =>
            cases items? children <;>
              simp [Collation.orElse, isSettings, isSuppress, isOptimize, eq_true isRules, eq_comm]
      · simp [Collation.orElse, isSettings, isSuppress, isOptimize, isRules, eq_comm]

theorem partsReadable_cons_iff {tree : Collation} {node : Node} {nodes : List Node} :
    PartsReadable tree (node :: nodes) ↔
      PartsReadable tree [node] ∧ PartsReadable (tree.orElse (ofFirstParts [node])) nodes := by
  have settings := Part.settings.readable_cons_iff tree.settings node nodes
  have rules := Part.rules.readable_cons_iff tree.rules node nodes
  constructor
  · rintro ⟨named, settingsRead, rulesRead⟩
    obtain ⟨namedNode, namedNodes⟩ := List.forall_mem_cons.mp named
    exact ⟨⟨List.forall_mem_singleton.mpr namedNode, (settings.mp settingsRead).1,
      (rules.mp rulesRead).1⟩, namedNodes, (settings.mp settingsRead).2, (rules.mp rulesRead).2⟩
  · rintro ⟨⟨namedNode, settingsHere, rulesHere⟩, namedNodes, settingsLater, rulesLater⟩
    exact ⟨List.forall_mem_cons.mpr ⟨namedNode node List.mem_cons_self, namedNodes⟩,
      settings.mpr ⟨settingsHere, settingsLater⟩, rules.mpr ⟨rulesHere, rulesLater⟩⟩

theorem orElse_ofFirstParts_cons {tree : Collation} {node : Node} (nodes : List Node)
    (readable : PartsReadable tree [node]) :
    tree.orElse (ofFirstParts (node :: nodes)) =
      (tree.orElse (ofFirstParts [node])).orElse (ofFirstParts nodes) := by
  have anyway : ∀ part : Part Text, (∀ node, ∃ value, part.read node = some value) →
      part.Readable [node] := fun part total node _ => total node
  simp only [Collation.orElse, ofFirstParts]
  rw [Part.settings.first_cons_of_readable _ nodes readable.settings,
    Part.rules.first_cons_of_readable _ nodes readable.rules,
    Part.suppressContractions.first_cons_of_readable _ nodes
      fun _ => anyway _ fun _ => ⟨_, rfl⟩,
    Part.optimize.first_cons_of_readable _ nodes fun _ => anyway _ fun _ => ⟨_, rfl⟩]

/-- The loop over the elements gives what four independent searches give. -/
theorem foldlM_addPart_eq_some_iff {tree result : Collation} {nodes : List Node} :
    nodes.foldlM addPart tree = some result ↔
      PartsReadable tree nodes ∧ result = tree.orElse (ofFirstParts nodes) := by
  induction nodes generalizing tree with
  | nil =>
      have readable : PartsReadable tree [] := ⟨by simp, by simp [Part.Readable, firstNamed?],
        by simp [Part.Readable, firstNamed?]⟩
      simp [readable, Collation.orElse, ofFirstParts, Part.first, firstNamed?, eq_comm]
  | cons node nodes ih =>
      rw [List.foldlM_cons, Option.bind_eq_bind, Option.bind_eq_some_iff, partsReadable_cons_iff]
      simp only [addPart_eq_some_iff, ih]
      constructor
      · rintro ⟨next, ⟨readable, rfl⟩, later, rfl⟩
        exact ⟨⟨readable, later⟩, (orElse_ofFirstParts_cons nodes readable).symm⟩
      · rintro ⟨⟨readable, later⟩, rfl⟩
        exact ⟨_, ⟨readable, rfl⟩, later, orElse_ofFirstParts_cons nodes readable⟩

/-! ## Elements among other nodes -/

/-- The tags of all elements among nodes are readable; what is in them does not count. -/
def TagsReadable (nodes : List Node) : Prop :=
  ∀ node ∈ nodes, node.isElement = true → ∃ kind, node.localName? = some kind

theorem firstNamed?_filter (name : Text) (nodes : List Node) :
    firstNamed? name (nodes.filter Node.isElement) = firstNamed? name nodes := by
  rw [firstNamed?, List.find?_filter]
  refine congrArg (List.find? · nodes) (funext fun node => ?_)
  cases element : node.isElement with
  | false => simp [localName?_of_not element]
  | true =>
      rw [Bool.eq_iff_iff]
      simp

theorem partsReadable_filter_iff {nodes : List Node} :
    PartsReadable {} (nodes.filter Node.isElement) ↔
      TagsReadable nodes ∧ Part.settings.Readable nodes ∧ Part.rules.Readable nodes := by
  have tags : (∀ node ∈ nodes.filter Node.isElement, ∃ kind, node.localName? = some kind) ↔
      TagsReadable nodes := by
    simp [TagsReadable]
  have first : ∀ {Value : Type} (part : Part Value),
      part.Readable (nodes.filter Node.isElement) ↔ part.Readable nodes := by
    intro Value part
    rw [Part.Readable, firstNamed?_filter]
    rfl
  constructor
  · intro readable
    exact ⟨tags.mp readable.named, (first _).mp (readable.settings rfl),
      (first _).mp (readable.rules rfl)⟩
  · rintro ⟨named, settings, rules⟩
    exact ⟨tags.mpr named, fun _ => (first _).mpr settings, fun _ => (first _).mpr rules⟩

theorem ofFirstParts_filter (nodes : List Node) :
    ofFirstParts (nodes.filter Node.isElement) = ofFirstParts nodes := by
  simp only [ofFirstParts, Part.first, firstNamed?_filter]

theorem foldlM_elements_eq_some_iff {nodes : List Node} {tree : Collation} :
    (nodes.filter Node.isElement).foldlM addPart {} = some tree ↔
      (TagsReadable nodes ∧ Part.settings.Readable nodes ∧ Part.rules.Readable nodes) ∧
        tree = ofFirstParts nodes := by
  rw [foldlM_addPart_eq_some_iff, partsReadable_filter_iff, ofFirstParts_filter]
  rfl

/-! ## Rearrangement -/

/-- Nodes that differ in elements that are not the first of a part: elements of other
names and nodes that are no elements come and go anywhere, so do elements after another
of their name, and the order changes as long as the first of each part stays the
first. -/
inductive Rearranged : List Node → List Node → Prop where
  | refl {nodes} : Rearranged nodes nodes
  | symm {nodes nodes'} : Rearranged nodes nodes' → Rearranged nodes' nodes
  | trans {nodes nodes' nodes''} :
      Rearranged nodes nodes' → Rearranged nodes' nodes'' → Rearranged nodes nodes''
  | noElement {front node back} :
      node.isElement = false → Rearranged (front ++ back) (front ++ node :: back)
  | otherName {front node back kind} :
      node.localName? = some kind → kind ∉ partNames →
      Rearranged (front ++ back) (front ++ node :: back)
  | duplicate {front earlier node back kind} :
      earlier ∈ front → earlier.localName? = some kind → node.localName? = some kind →
      Rearranged (front ++ back) (front ++ node :: back)
  | permuted {nodes nodes'} :
      nodes.Perm nodes' → (∀ kind ∈ partNames, firstNamed? kind nodes = firstNamed? kind nodes') →
      Rearranged nodes nodes'

/-- The same elements are the first of their parts. -/
structure SameFirst (nodes nodes' : List Node) : Prop where
  tags : TagsReadable nodes ↔ TagsReadable nodes'
  first : ∀ kind ∈ partNames, firstNamed? kind nodes = firstNamed? kind nodes'

theorem tagsReadable_insert_iff {front back : List Node} {node : Node}
    (readable : node.isElement = true → ∃ kind, node.localName? = some kind) :
    TagsReadable (front ++ back) ↔ TagsReadable (front ++ node :: back) := by
  simp only [TagsReadable, List.forall_mem_append, List.forall_mem_cons]
  tauto

theorem firstNamed?_insert_of_ne {kind : Text} {front back : List Node} {node : Node}
    (other : node.localName? ≠ some kind) :
    firstNamed? kind (front ++ back) = firstNamed? kind (front ++ node :: back) := by
  simp [firstNamed?, other]

theorem firstNamed?_insert_of_mem {kind : Text} {front : List Node} {earlier : Node}
    (member : earlier ∈ front) (named : earlier.localName? = some kind) (back back' : List Node) :
    firstNamed? kind (front ++ back) = firstNamed? kind (front ++ back') := by
  have found : (firstNamed? kind front).isSome = true :=
    List.find?_isSome.mpr ⟨earlier, member, by simp [named]⟩
  obtain ⟨first, given⟩ := Option.isSome_iff_exists.mp found
  simp only [firstNamed?] at given
  simp [firstNamed?, List.find?_append, given]

theorem Rearranged.sameFirst {nodes nodes' : List Node} (rearranged : Rearranged nodes nodes') :
    SameFirst nodes nodes' := by
  induction rearranged with
  | refl => exact ⟨.rfl, fun _ _ => rfl⟩
  | symm _ ih => exact ⟨ih.tags.symm, fun kind part => (ih.first kind part).symm⟩
  | trans _ _ ih ih' =>
      refine ⟨ih.tags.trans ih'.tags, fun kind part => ?_⟩
      exact (ih.first kind part).trans (ih'.first kind part)
  | noElement other =>
      refine ⟨tagsReadable_insert_iff (by simp [other]), fun kind _ => ?_⟩
      exact firstNamed?_insert_of_ne (by simp [localName?_of_not other])
  | otherName named other =>
      refine ⟨tagsReadable_insert_iff fun _ => ⟨_, named⟩, fun kind part => ?_⟩
      refine firstNamed?_insert_of_ne fun same => ?_
      cases named.symm.trans same
      exact other part
  | @duplicate front earlier node back duplicated member earlierNamed named =>
      refine ⟨tagsReadable_insert_iff fun _ => ⟨_, named⟩, fun kind _ => ?_⟩
      by_cases same : duplicated = kind
      · subst same
        exact firstNamed?_insert_of_mem member earlierNamed _ _
      · exact firstNamed?_insert_of_ne (by simpa [named] using same)
  | permuted perm first =>
      exact ⟨forall_congr' fun node => imp_congr_left perm.mem_iff, first⟩

theorem SameFirst.foldlM_eq {nodes nodes' : List Node} (same : SameFirst nodes nodes') :
    (nodes.filter Node.isElement).foldlM addPart {} =
      (nodes'.filter Node.isElement).foldlM addPart {} := by
  have settings : firstNamed? Part.settings.name nodes = firstNamed? Part.settings.name nodes' :=
    same.first _ (by decide)
  have suppressContractions : firstNamed? Part.suppressContractions.name nodes =
      firstNamed? Part.suppressContractions.name nodes' := same.first _ (by decide)
  have optimize : firstNamed? Part.optimize.name nodes = firstNamed? Part.optimize.name nodes' :=
    same.first _ (by decide)
  have rules : firstNamed? Part.rules.name nodes = firstNamed? Part.rules.name nodes' :=
    same.first _ (by decide)
  refine Option.ext fun tree => ?_
  rw [foldlM_elements_eq_some_iff, foldlM_elements_eq_some_iff, same.tags]
  simp only [Part.Readable, ofFirstParts, Part.first, settings, suppressContractions, optimize,
    rules]

/-! ## The collation -/

theorem readable_rules {nodes : List Node} (readable : ∀ node ∈ nodes, NamesReadable node) :
    Part.rules.Readable nodes := by
  intro node found
  cases readable node (List.mem_of_find?_eq_some found) with
  | text => exact ⟨[], rfl⟩
  | aside => exact ⟨[], rfl⟩
  | element _ readable =>
      exact exists_items? fun child member => (readable child member).exists_item?

theorem tagsReadable {nodes : List Node} (readable : ∀ node ∈ nodes, NamesReadable node) :
    TagsReadable nodes := by
  intro node member element
  cases readable node member with
  | text => cases element
  | aside => cases element
  | element named _ => exact ⟨_, named⟩

/-- Each part of a collation comes from the first element of its name, however the
elements are arranged, and is there exactly if there is such an element. -/
theorem collation_of_first_parts {name : Text} (attributes : Attributes) {children : List Node}
    (named : localName? name = some ("collation" : Text))
    (readable : ∀ child ∈ children, NamesReadable child)
    (settings : ∀ first ∈ firstNamed? "settings" children,
      ∀ entry ∈ first.attributes, ∃ setting, localName? entry.1 = some setting) :
    collation (.element name attributes children) = .ok (ofFirstParts children) ∧
      (((ofFirstParts children).settings = none ↔ firstNamed? "settings" children = none) ∧
        ((ofFirstParts children).suppressContractions = none ↔
          firstNamed? "suppress_contractions" children = none) ∧
        ((ofFirstParts children).optimize = none ↔ firstNamed? "optimize" children = none) ∧
        ((ofFirstParts children).rules = none ↔ firstNamed? "rules" children = none)) ∧
      ∀ attributes' children', Rearranged children children' →
        collation (.element name attributes' children') = .ok (ofFirstParts children) := by
  have settingsRead : Part.settings.Readable children := fun first found =>
    exists_settings? (settings first found)
  have rulesRead := readable_rules readable
  have added : (children.filter Node.isElement).foldlM addPart {} = some (ofFirstParts children) :=
    foldlM_elements_eq_some_iff.mpr ⟨⟨tagsReadable readable, settingsRead, rulesRead⟩, rfl⟩
  refine ⟨?_, ⟨?_, ?_, ?_, ?_⟩, ?_⟩
  · rw [collation_element attributes children named, added]
    rfl
  · exact Part.settings.first_eq_none_iff settingsRead
  · exact Part.suppressContractions.first_eq_none_iff fun _ _ => ⟨_, rfl⟩
  · exact Part.optimize.first_eq_none_iff fun _ _ => ⟨_, rfl⟩
  · exact Part.rules.first_eq_none_iff rulesRead
  · intro attributes' children' rearranged
    rw [collation_element attributes' children' named, ← rearranged.sameFirst.foldlM_eq, added]
    rfl

/-- Empty settings before others, an element of another name, and the order reversed
once these are gone. -/
theorem collation_of_first_parts_reversed :
    collation (.element "collation" []
        [.element "special" [] [], .element "settings" [] [],
          .element "rules" [] [.element "reset" [] [.text "a"]],
          .element "settings" [("strength", "primary")] [], .element "optimize" [] []]) =
      .ok { settings := some [], optimize := some [],
            rules := some [{ kind := "reset", text := "a" }] } ∧
    collation (.element "collation" []
        [.element "optimize" [] [], .element "rules" [] [.element "reset" [] [.text "a"]],
          .element "settings" [] []]) =
      .ok { settings := some [], optimize := some [],
            rules := some [{ kind := "reset", text := "a" }] } := by
  let special : Node := .element "special" [] []
  let settings : Node := .element "settings" [] []
  let rules : Node := .element "rules" [] [.element "reset" [] [.text "a"]]
  let later : Node := .element "settings" [("strength", "primary")] []
  let optimize : Node := .element "optimize" [] []
  have readable : ∀ child ∈ [special, settings, rules, later, optimize], NamesReadable child := by
    have empty : ∀ child ∈ ([] : List Node), NamesReadable child := by simp
    have reset : NamesReadable (.element "reset" [] [.text "a"]) :=
      .element rfl (List.forall_mem_singleton.mpr .text)
    simp only [List.forall_mem_cons]
    exact ⟨.element rfl empty, .element rfl empty,
      .element rfl (List.forall_mem_singleton.mpr reset), .element rfl empty, .element rfl empty,
      empty⟩
  have other : Rearranged ([] ++ [settings, rules, later, optimize])
      ([] ++ special :: [settings, rules, later, optimize]) := .otherName rfl (by decide)
  have duplicate : Rearranged ([settings, rules] ++ [optimize])
      ([settings, rules] ++ later :: [optimize]) :=
    .duplicate (.head _) (show settings.localName? = some ("settings" : Text) from rfl) rfl
  have reversed : Rearranged [settings, rules, optimize] [optimize, rules, settings] := by
    refine .permuted (List.reverse_perm [settings, rules, optimize]).symm
      (List.map_inj_left.mp ?_)
    calc
      partNames.map (firstNamed? · [settings, rules, optimize])
      _ = [some settings, none, some optimize, some rules] := rfl
      _ = partNames.map (firstNamed? · [optimize, rules, settings]) := rfl
  have first : firstNamed? "settings" [special, settings, rules, later, optimize] =
      some settings := rfl
  have parts : ofFirstParts [special, settings, rules, later, optimize] =
      { settings := some [], optimize := some [],
        rules := some [{ kind := "reset", text := "a" }] } := by decide
  obtain ⟨read, -, anyhow⟩ := collation_of_first_parts []
    (show localName? "collation" = some ("collation" : Text) from rfl) readable (by
      rw [first]
      rintro _ ⟨⟩ entry ⟨⟩)
  rw [parts] at read anyhow
  exact ⟨read, anyhow [] _ (.trans (.symm other) (.trans (.symm duplicate) reversed))⟩

end Ldml

end Tailoring

import Mathlib.Data.List.Basic
import Tailoring.Proofs.Ldml.Reading
import Tailoring.Proofs.Text.Search

/-!
# Looking a collation up

The elements of a document are listed by places, each before what is in it and that
before what comes after it: places grow step by step as in a dictionary. So what the
search finds first is the first in the document.

Finding goes by what a name is without its namespace. Reading takes a namespace to end
at the first closing brace, so it refuses an element that was found if its namespace
has such a brace in it.
-/

set_option autoImplicit false

namespace Tailoring

namespace Markup.Node

/-! ## Places of elements -/

theorem at?_cons (node : Node) (index : Nat) (rest : Place) :
    node.at? (index :: rest) = node.countedChildren[index]?.bind (·.at? rest) := by
  rw [at?]
  cases node.countedChildren[index]? <;> rfl

/-- The element lies at the place, which goes on from the steps to the node. -/
def Lies (steps : Place) (node : Node) (entry : Place × Node) : Prop :=
  ∃ rest, entry.1 = steps.reverse ++ rest ∧ node.at? rest = some entry.2 ∧
    entry.2.isElement = true

/-- Only elements have elements in them. -/
theorem Lies.isElement {steps : Place} {node : Node} {entry : Place × Node}
    (lies : Lies steps node entry) : node.isElement = true := by
  obtain ⟨place, found⟩ := entry
  obtain ⟨rest, -, nodeAt, element⟩ := lies
  cases node with
  | element => rfl
  | text | aside =>
      cases rest with
      | nil =>
          cases nodeAt
          exact element
      | cons index rest => cases nodeAt

theorem isElement_of_isText {node : Node} (isText : node.isText = true) :
    node.isElement = false := by
  cases node with
  | text => rfl
  | element => cases isText
  | aside => cases isText

theorem mem_elementsFromAll_iff {steps : Place} {nodes : List Node} {index : Nat}
    {entry : Place × Node}
    (each : ∀ node ∈ nodes, ∀ steps, entry ∈ elementsFrom steps node ↔ Lies steps node entry) :
    entry ∈ elementsFromAll steps index nodes ↔
      ∃ step node, (nodes.filter fun node => !node.isText)[step]? = some node ∧
        Lies ((index + step) :: steps) node entry := by
  induction nodes generalizing index with
  | nil => simp [elementsFromAll]
  | cons node nodes ih =>
      have here := each node List.mem_cons_self
      have later := fun index => @ih index fun node member => each node (.tail _ member)
      rw [elementsFromAll, List.mem_append, here, later]
      cases isText : node.isText with
      | true =>
          -- text takes no number and has no elements
          have none : ¬Lies (index :: steps) node entry := fun lies =>
            absurd lies.isElement (by simp [isElement_of_isText isText])
          simp [isText, none]
      | false =>
          rw [List.filter_cons_of_pos (by simp [isText])]
          constructor
          · rintro (lies | ⟨step, found, given, lies⟩)
            · exact ⟨0, node, rfl, lies⟩
            · refine ⟨step + 1, found, given, ?_⟩
              rwa [if_neg (by simp), Nat.add_assoc, Nat.add_comm 1] at lies
          · rintro ⟨step, found, given, lies⟩
            cases step with
            | zero =>
                cases given
                exact .inl lies
            | succ step =>
                refine .inr ⟨step, found, given, ?_⟩
                rwa [if_neg (by simp), Nat.add_assoc, Nat.add_comm 1]

theorem mem_elementsFrom_iff {steps : Place} {node : Node} {entry : Place × Node} :
    entry ∈ elementsFrom steps node ↔ Lies steps node entry := by
  induction node using Node.induction generalizing steps with
  | text content => exact iff_of_false (by simp [elementsFrom]) fun lies => nomatch lies.isElement
  | aside => exact iff_of_false (by simp [elementsFrom]) fun lies => nomatch lies.isElement
  | element name attributes children ih =>
      obtain ⟨place, found⟩ := entry
      rw [elementsFrom, List.mem_cons,
        mem_elementsFromAll_iff fun child member _ => ih child member]
      constructor
      · rintro (same | ⟨step, child, given, rest, rfl, childAt, element⟩)
        · cases same
          exact ⟨[], by simp, rfl, rfl⟩
        · refine ⟨step :: rest, by simp, ?_, element⟩
          rw [at?_cons]
          exact Option.bind_eq_some_iff.mpr ⟨child, given, childAt⟩
      · rintro ⟨rest, rfl, nodeAt, element⟩
        cases rest with
        | nil =>
            cases nodeAt
            exact .inl (by simp)
        | cons step rest =>
            rw [at?_cons] at nodeAt
            obtain ⟨child, given, childAt⟩ := Option.bind_eq_some_iff.mp nodeAt
            exact .inr ⟨step, child, given, rest, by simp, childAt, element⟩

theorem mem_elements_iff {root found : Node} {place : Place} :
    (place, found) ∈ root.elements ↔ root.at? place = some found ∧ found.isElement = true := by
  rw [elements, mem_elementsFrom_iff]
  simp [Lies]

/-! ## Document order -/

theorem lt_append_cons (place : Place) (step : Nat) (rest : Place) :
    place < place ++ step :: rest := by
  conv => lhs; rw [← List.append_nil place]
  exact List.append_left_lt (List.nil_lt_cons step rest)

theorem append_cons_lt (place : Place) {step later : Nat} (earlier : step < later)
    (rest rest' : Place) : place ++ step :: rest < place ++ later :: rest' :=
  List.append_left_lt (List.cons_lt_cons_iff.mpr (.inl earlier))

theorem pairwise_elementsFromAll {steps : Place} {nodes : List Node} {index : Nat}
    (each : ∀ node ∈ nodes, ∀ steps, (elementsFrom steps node).Pairwise (·.1 < ·.1)) :
    (elementsFromAll steps index nodes).Pairwise (·.1 < ·.1) := by
  induction nodes generalizing index with
  | nil => exact .nil
  | cons node nodes ih =>
      rw [elementsFromAll, List.pairwise_append]
      refine ⟨each node List.mem_cons_self _, ih fun node member => each node (.tail _ member), ?_⟩
      rintro ⟨place, found⟩ here ⟨place', found'⟩ there
      rw [mem_elementsFrom_iff] at here
      rw [mem_elementsFromAll_iff fun _ _ _ => mem_elementsFrom_iff] at there
      have counted : node.isText = false := by
        rw [Bool.eq_false_iff]
        intro isText
        exact absurd here.isElement (by simp [isElement_of_isText isText])
      obtain ⟨rest, rfl, -, -⟩ := here
      obtain ⟨step, -, -, rest', rfl, -, -⟩ := there
      rw [if_neg (by simp [counted]), List.reverse_cons, List.reverse_cons, List.append_assoc,
        List.append_assoc]
      exact append_cons_lt _ (by omega) _ _

theorem pairwise_elementsFrom (steps : Place) (node : Node) :
    (elementsFrom steps node).Pairwise (·.1 < ·.1) := by
  induction node using Node.induction generalizing steps with
  | text content => exact .nil
  | aside => exact .nil
  | element name attributes children ih =>
      rw [elementsFrom, List.pairwise_cons]
      refine ⟨?_, pairwise_elementsFromAll fun child member steps => ih child member steps⟩
      rintro ⟨place, found⟩ below
      rw [mem_elementsFromAll_iff fun _ _ _ => mem_elementsFrom_iff] at below
      obtain ⟨step, -, -, rest, rfl, -, -⟩ := below
      rw [List.reverse_cons, List.append_assoc]
      exact lt_append_cons _ _ _

theorem find?_eq_some_iff_of_sorted {entries : List (Place × Node)} {suits : Place × Node → Bool}
    {entry : Place × Node} (sorted : entries.Pairwise (·.1 < ·.1)) :
    entries.find? suits = some entry ↔
      (entry ∈ entries ∧ suits entry = true) ∧
        ∀ other ∈ entries, suits other = true → other ≠ entry → entry.1 < other.1 := by
  have first_lt : ∀ {first : Place × Node}, entries.find? suits = some first →
      ∀ other ∈ entries, suits other = true → other ≠ first → first.1 < other.1 := by
    intro first found other member suited different
    obtain ⟨-, before, after, rfl, unsuited⟩ := List.find?_eq_some_iff_append.mp found
    obtain ⟨-, behind, -⟩ := List.pairwise_append.mp sorted
    rcases List.mem_append.mp member with early | late
    · exact absurd suited (by simpa using unsuited other early)
    · rcases List.mem_cons.mp late with same | late
      · exact absurd same different
      · exact List.rel_of_pairwise_cons behind late
  constructor
  · intro found
    exact ⟨⟨List.mem_of_find?_eq_some found, List.find?_some found⟩, first_lt found⟩
  · rintro ⟨⟨member, suited⟩, least⟩
    cases found : entries.find? suits with
    | none => exact absurd suited (List.find?_eq_none.mp found entry member)
    | some first =>
        by_contra different
        have different : first ≠ entry := fun same => different (congrArg some same)
        have below :=
          least first (List.mem_of_find?_eq_some found) (List.find?_some found) different
        exact List.lt_asymm below (first_lt found entry member suited different.symm)

end Markup.Node

/-! ## Names and their namespaces -/

namespace Markup

def openingBrace : CodePoint := '\x7b'

def closingBrace : CodePoint := '\x7d'

/-- A name with its namespace in front. -/
def inNamespace (space own : Text) : Text :=
  openingBrace :: (space ++ closingBrace :: own)

/-- The namespace of the name has a closing brace in it. -/
def Braced (name : Text) : Prop :=
  ∃ space own, name = inNamespace space own ∧ closingBrace ∈ space

theorem braced_inNamespace_iff {space own : Text} :
    Braced (inNamespace space own) ↔ closingBrace ∈ space ∨ closingBrace ∈ own := by
  constructor
  · rintro ⟨space', own', same, braced⟩
    by_contra none
    obtain ⟨notInSpace, notInOwn⟩ := not_or.mp none
    -- one closing brace cannot be two
    have counts := congrArg (List.count closingBrace) (List.cons.inj same).2
    have more := List.count_pos_iff.mpr braced
    rw [List.count_append, List.count_append, List.count_cons_self, List.count_cons_self,
      List.count_eq_zero.mpr notInSpace, List.count_eq_zero.mpr notInOwn] at counts
    omega
  · rintro (inSpace | inOwn)
    · exact ⟨space, own, rfl, inSpace⟩
    · obtain ⟨front, back, rfl⟩ := List.append_of_mem inOwn
      exact ⟨space ++ closingBrace :: front, back, by simp [inNamespace], by simp⟩

theorem not_mem_opened {rest : Text} (absent : closingBrace ∉ rest) :
    closingBrace ∉ openingBrace :: rest := by
  rw [List.mem_cons, not_or]
  exact ⟨by decide, absent⟩

theorem localName?_inNamespace {space : Text} (free : closingBrace ∉ space) (own : Text) :
    localName? (inNamespace space own) = some own := by
  have cut : Text.cutAt? closingBrace (inNamespace space own) = some (openingBrace :: space, own) :=
    Text.cutAt?_append (not_mem_opened free) own
  exact congrArg (Option.map Prod.snd) cut

theorem ownName_inNamespace (space : Text) {own : Text} (free : closingBrace ∉ own) :
    ownName (inNamespace space own) = own := by
  have before : ∀ c ∈ own.reverse, (c != closingBrace) = true := by
    intro c member
    simpa using ne_of_mem_of_not_mem (List.mem_reverse.mp member) free
  have reversed : (inNamespace space own).reverse =
      own.reverse ++ closingBrace :: (space.reverse ++ [openingBrace]) := by
    simp [inNamespace]
  have taken : (inNamespace space own).reverse.takeWhile (· != closingBrace) = own.reverse := by
    rw [reversed, List.takeWhile_append_of_pos before]
    simp
  exact (congrArg List.reverse taken).trans own.reverse_reverse

/-- The forms of a name: without a namespace, with one that is not closed, with one that
has no closing brace in it, and with one that has. -/
inductive NameForm : Text → Prop where
  | bare {name} : name.head? ≠ some openingBrace → NameForm name
  | unclosed {rest} : closingBrace ∉ rest → NameForm (openingBrace :: rest)
  | plain {space own} :
      closingBrace ∉ space → closingBrace ∉ own → NameForm (inNamespace space own)
  | braced {front back own} :
      closingBrace ∉ front → closingBrace ∉ own →
      NameForm (inNamespace (front ++ closingBrace :: back) own)

theorem nameForm (name : Text) : NameForm name := by
  cases name with
  | nil => exact .bare (by simp)
  | cons c rest =>
      by_cases opened : c = openingBrace
      · subst opened
        by_cases closed : closingBrace ∈ rest
        · -- the last closing brace is the first from the end
          obtain ⟨own, space, split, free⟩ :=
            List.eq_append_cons_of_mem (List.mem_reverse.mpr closed)
          have split : rest = space.reverse ++ closingBrace :: own.reverse := by
            rw [← rest.reverse_reverse, split]
            simp
          have free : closingBrace ∉ own.reverse := by simpa using free
          subst split
          by_cases another : closingBrace ∈ space.reverse
          · obtain ⟨front, back, split, first⟩ := List.eq_append_cons_of_mem another
            rw [split]
            exact .braced first free
          · exact .plain another free
        · exact .unclosed closed
      · exact .bare (by simpa using opened)

theorem localName?_braced {front back own : Text} (first : closingBrace ∉ front) :
    localName? (inNamespace (front ++ closingBrace :: back) own) =
      some (back ++ closingBrace :: own) := by
  rw [← localName?_inNamespace first]
  simp [inNamespace]

theorem ownName_unclosed {rest : Text} (unclosed : closingBrace ∉ rest) :
    ownName (openingBrace :: rest) = openingBrace :: rest := by
  have all : (openingBrace :: rest).reverse.takeWhile (· != closingBrace) =
      (openingBrace :: rest).reverse := by
    rw [List.takeWhile_eq_self_iff]
    intro c member
    simpa using ne_of_mem_of_not_mem (List.mem_reverse.mp member) (not_mem_opened unclosed)
  exact (congrArg List.reverse all).trans (List.reverse_reverse _)

section Plain

variable {name kind : Text} (unopened : kind.head? ≠ some openingBrace)

include unopened

/-- A name that is read as it is without its namespace has no closing brace in that. -/
theorem localName?_eq_some_iff (free : closingBrace ∉ kind) :
    localName? name = some kind ↔ ownName name = kind ∧ ¬Braced name := by
  cases nameForm name with
  | bare head =>
      have notBraced : ¬Braced name := by
        rintro ⟨space, own, rfl, -⟩
        exact head rfl
      have own : ownName name = name := if_neg head
      have read : localName? name = some name := if_neg head
      simp [own, read, notBraced]
  | @unclosed rest absent =>
      have unread : localName? (openingBrace :: rest) = none :=
        congrArg (Option.map Prod.snd) (Text.cutAt?_of_not_mem (not_mem_opened absent))
      rw [unread, ownName_unclosed absent]
      refine iff_of_false (by simp) ?_
      rintro ⟨rfl, -⟩
      exact unopened rfl
  | @plain space own freeSpace freeOwn =>
      rw [localName?_inNamespace freeSpace, ownName_inNamespace space freeOwn,
        braced_inNamespace_iff]
      simp [freeSpace, freeOwn]
  | @braced front back own first freeOwn =>
      rw [localName?_braced first, braced_inNamespace_iff]
      refine iff_of_false ?_ (by simp)
      rintro ⟨⟩
      exact free (by simp)

theorem exists_localName? (own : ownName name = kind) : ∃ read, localName? name = some read := by
  cases nameForm name with
  | bare head => exact ⟨name, if_neg head⟩
  | unclosed absent =>
      rw [ownName_unclosed absent] at own
      subst own
      exact absurd rfl unopened
  | plain freeSpace _ => exact ⟨_, localName?_inNamespace freeSpace _⟩
  | braced first _ => exact ⟨_, localName?_braced first⟩

end Plain

end Markup

namespace Ldml

open Markup

/-! ## The search -/

def IsCollation (type : Text) (node : Node) : Prop :=
  ∃ name attributes children, node = .element name attributes children ∧
    ownName name = "collation" ∧ (attributes.lookup ("type" : Text)).getD standardType = type

def CollationAt (type : Text) (root : Node) (place : Place) : Prop :=
  ∃ node, root.at? place = some node ∧ IsCollation type node

theorem isCollationOf_eq_true_iff {type : Text} {node : Node} :
    isCollationOf type node = true ↔ IsCollation type node := by
  cases node with
  | text => simp [isCollationOf, IsCollation, Node.ownName?]
  | aside => simp [isCollationOf, IsCollation, Node.ownName?]
  | element name attributes children =>
      simp [isCollationOf, IsCollation, Node.ownName?, Node.attribute?]

theorem IsCollation.isElement {type : Text} {node : Node} (valid : IsCollation type node) :
    node.isElement = true := by
  obtain ⟨name, attributes, children, rfl, -⟩ := valid
  rfl

theorem collationAt_iff {type : Text} {root : Node} {place : Place} :
    CollationAt type root place ↔
      ∃ node, (place, node) ∈ root.elements ∧ isCollationOf type node = true := by
  simp only [CollationAt, Node.mem_elements_iff, isCollationOf_eq_true_iff]
  constructor
  · rintro ⟨node, nodeAt, valid⟩
    exact ⟨node, ⟨nodeAt, valid.isElement⟩, valid⟩
  · rintro ⟨node, ⟨nodeAt, -⟩, valid⟩
    exact ⟨node, nodeAt, valid⟩

theorem find?_of_start {type : Text} {root : Node} {start : Place} {name : Text}
    {attributes : Attributes} {children : List Node}
    (given : root.at? start = some (.element name attributes children)) :
    find? type root start =
      if localName? name = some ("collation" : Text) then some start
      else (root.elements.find? fun entry => isCollationOf type entry.2).map Prod.fst := by
  simp [find?, given, Node.localName?]

theorem search_eq_some_iff {type : Text} {root : Node} {place : Place} :
    (root.elements.find? fun entry => isCollationOf type entry.2).map Prod.fst = some place ↔
      CollationAt type root place ∧
        ∀ other, CollationAt type root other → other ≠ place → place < other := by
  have sorted := Node.pairwise_elementsFrom [] root
  simp only [Option.map_eq_some_iff, collationAt_iff]
  constructor
  · rintro ⟨⟨_, node⟩, found, rfl⟩
    obtain ⟨⟨member, suited⟩, least⟩ := (Node.find?_eq_some_iff_of_sorted sorted).mp found
    refine ⟨⟨node, member, suited⟩, ?_⟩
    rintro other ⟨node', member', suited'⟩ different
    exact least (other, node') member' suited' fun same => different (congrArg Prod.fst same)
  · rintro ⟨⟨node, member, suited⟩, least⟩
    refine ⟨(place, node), ?_, rfl⟩
    refine (Node.find?_eq_some_iff_of_sorted sorted).mpr ⟨⟨member, suited⟩, ?_⟩
    rintro ⟨other, node'⟩ member' suited' different
    refine least other ⟨node', member', suited'⟩ ?_
    -- two elements at one place are one
    rintro rfl
    have same := (Node.mem_elements_iff.mp member').1.symm.trans (Node.mem_elements_iff.mp member).1
    cases same
    exact different rfl

theorem search_eq_none_iff {type : Text} {root : Node} :
    (root.elements.find? fun entry => isCollationOf type entry.2).map Prod.fst = none ↔
      ∀ place, ¬CollationAt type root place := by
  simp [collationAt_iff]

theorem collation_name : ("collation" : Text).head? ≠ some openingBrace ∧
    closingBrace ∉ ("collation" : Text) := by decide

/-- An element is refused if its name is read as another. -/
theorem exists_fault_iff {name : Text} {attributes : Attributes} {children : List Node}
    (own : ownName name = "collation") :
    (∃ fault, collation (.element name attributes children) = .error (.fault fault)) ↔
      Braced name := by
  obtain ⟨unopened, free⟩ := collation_name
  obtain ⟨kind, read⟩ := exists_localName? unopened own
  by_cases braced : Braced name
  · have other : kind ≠ "collation" := by
      rintro rfl
      exact ((localName?_eq_some_iff unopened free).mp read).2 braced
    refine iff_of_true ⟨.notCollation kind, ?_⟩ braced
    simp [collation, Node.localName?, read, other]
  · have named := (localName?_eq_some_iff unopened free).mpr ⟨own, braced⟩
    refine iff_of_false ?_ braced
    rintro ⟨fault, refused⟩
    rw [collation_element attributes children named] at refused
    cases added : (children.filter Node.isElement).foldlM addPart {} with
    | none =>
        rw [added] at refused
        cases refused
    | some tree =>
        rw [added] at refused
        cases refused

/-- From a start that is a collation, whatever its type, the start is found. From any
other the first collation of the type in the document is, if there is one. What is found
is refused exactly if its namespace has a closing brace in it, and such a start does not
count as a collation either. -/
theorem find?_first_collation (type : Text) {root : Node} {start : Place} {name : Text}
    {attributes : Attributes} {children : List Node}
    (given : root.at? start = some (.element name attributes children)) :
    (ownName name = "collation" ∧ ¬Braced name → find? type root start = some start) ∧
      (¬(ownName name = "collation" ∧ ¬Braced name) →
        (∀ place, find? type root start = some place ↔
          CollationAt type root place ∧
            ∀ other, CollationAt type root other → other ≠ place → place < other) ∧
        (find? type root start = none ↔ ∀ place, ¬CollationAt type root place)) ∧
      ∀ place, find? type root start = some place →
        ∃ name attributes children, root.at? place = some (.element name attributes children) ∧
          ownName name = "collation" ∧
          ((∃ fault, collation (.element name attributes children) = .error (.fault fault)) ↔
            Braced name) := by
  obtain ⟨unopened, free⟩ := collation_name
  have reads : localName? name = some ("collation" : Text) ↔ _ :=
    localName?_eq_some_iff unopened free
  rw [find?_of_start given]
  refine ⟨fun valid => if_pos (reads.mpr valid), fun other => ?_, fun place result => ?_⟩
  · rw [if_neg (mt reads.mp other)]
    exact ⟨fun place => search_eq_some_iff, search_eq_none_iff⟩
  · split at result
    · next read =>
        cases result
        have own := (reads.mp read).1
        exact ⟨name, attributes, children, given, own, exists_fault_iff own⟩
    · obtain ⟨⟨node, nodeAt, name, attributes, children, rfl, own, -⟩, -⟩ :=
        search_eq_some_iff.mp result
      exact ⟨name, attributes, children, nodeAt, own, exists_fault_iff own⟩

/-- The nested collation comes before the one in the start, and the collation around it
is found from itself whatever the type. -/
theorem find?_first_collation_nested :
    let nested : Node := .element "\x7bu\x7dcollation" [] []
    let search : Node := .element "collation" [("type", "search")] [nested]
    let inner : Node := .element "collation" [("type", "standard")] []
    let root : Node := .element "ldml" []
      [.text " ", .aside, search, .element "special" [] [inner]]
    find? "standard" root [1] = some [1] ∧
      CollationAt "standard" root [1, 0] ∧
      (∀ other, CollationAt "standard" root other → other ≠ [1, 0] → [1, 0] < other) ∧
      ∀ fault, collation nested ≠ .error (.fault fault) := by
  intro nested search inner root
  obtain ⟨unopened, free⟩ := collation_name
  obtain ⟨searchFound, -, -⟩ :=
    find?_first_collation "standard" (show root.at? [1] = some search from rfl)
  obtain ⟨-, firstFound, accepted⟩ := find?_first_collation "standard"
    (show root.at? [2] = some (.element "special" [] [inner]) from rfl)
  have found : find? "standard" root [2] = some [1, 0] := by decide
  have other : ¬(ownName "special" = "collation" ∧ ¬Braced "special") :=
    fun same => absurd same.1 (by decide)
  obtain ⟨first, least⟩ := ((firstFound other).1 [1, 0]).mp found
  refine ⟨searchFound ((localName?_eq_some_iff unopened free).mp rfl), first, least, ?_⟩
  intro fault refused
  obtain ⟨_, _, _, nestedAt, -, refusal⟩ := accepted [1, 0] found
  cases nestedAt.symm.trans
    (show root.at? [1, 0] = some (.element "\x7bu\x7dcollation" [] []) from rfl)
  have plain : ¬Braced "\x7bu\x7dcollation" := ((localName?_eq_some_iff unopened free).mp rfl).2
  exact plain (refusal.mp ⟨fault, refused⟩)

/-- The namespace of this collation has a closing brace in it. It is found and refused,
and from itself it is not found as a collation of another type. -/
theorem find?_braced_refused :
    let root : Node := .element "\x7bhttp://[\x7d]/\x7dcollation" [] []
    ownName "\x7bhttp://[\x7d]/\x7dcollation" = "collation" ∧
      find? "standard" root [] = some [] ∧
      collation root = .error (.fault (.notCollation "]/\x7dcollation")) ∧
      find? "search" root [] = none := by
  decide

end Ldml

end Tailoring

import Tailoring.Proofs.IcuRules.VariableTop

/-!
# Why a collation has no ICU rules

The faults of a collation, listed in the order in which its parts are read:
settings first, then items; within an item what it lies before, whether it has
content at all, and its character references. Writing ICU rules fails with the
first fault, and for no other reason.
-/

set_option autoImplicit false

namespace Tailoring

open Outcome (Reports)

namespace Reference

def IsScalarValue (value : Nat) : Prop :=
  value ≤ 0x10FFFF ∧ ¬(0xD800 ≤ value ∧ value ≤ 0xDFFF)

instance (value : Nat) : Decidable (IsScalarValue value) :=
  inferInstanceAs (Decidable (_ ∧ _))

/-- Digits that name no character: they spell no number, or none that is a scalar
value. -/
def Rejects (digits : Text) : Prop :=
  ∀ value, Hex.read? digits = some value → ¬IsScalarValue value

def faults (element digits : Text) : List Fault :=
  match Hex.read? digits with
  | none => [.notHex digits element]
  | some value => if IsScalarValue value then [] else [.notScalar value element]

/-- The faults of several spelled characters. Where nothing is spelled, there is
no fault. -/
def faultsOfAll (element : Text) (spelled : List Text) : List Fault :=
  spelled.flatMap fun digits => if digits = [] then [] else faults element digits

theorem faults_ne_nil_iff {element digits : Text} :
    faults element digits ≠ [] ↔ Rejects digits := by
  unfold faults Rejects
  cases Hex.read? digits with
  | none => simp
  | some value => simp

theorem faultsOfAll_ne_nil_iff {element : Text} {spelled : List Text} :
    faultsOfAll element spelled ≠ [] ↔ ∃ digits ∈ spelled, digits ≠ [] ∧ Rejects digits := by
  simp only [faultsOfAll, ne_eq, List.flatMap_eq_nil_iff, not_forall, exists_prop,
    ite_eq_left_iff, ← @faults_ne_nil_iff element]

theorem faultsOfAll_filter (element : Text) (spelled : List Text) :
    faultsOfAll element (spelled.filter (· ≠ [])) = faultsOfAll element spelled := by
  unfold faultsOfAll
  induction spelled with
  | nil => rfl
  | cons digits spelled ih =>
      by_cases empty : digits = []
      · rw [List.filter_cons_of_neg (by simpa using empty), List.flatMap_cons, if_pos empty, ih,
          List.nil_append]
      · rw [List.filter_cons_of_pos (by simpa using empty), List.flatMap_cons, List.flatMap_cons,
          ih]

theorem reports_character (value : Nat) (element : Text) :
    Reports (if IsScalarValue value then [] else [Fault.notScalar value element])
      (character value element) := by
  unfold character
  by_cases scalar : IsScalarValue value
  · have inRange : 0 ≤ (value : Int) ∧ (value : Int) ≤ 0x10FFFF ∧
        ¬(0xD800 ≤ (value : Int) ∧ (value : Int) ≤ 0xDFFF) := by
      unfold IsScalarValue at scalar
      omega
    rw [if_pos scalar, dif_pos inRange]
    exact .success
  · have outOfRange : ¬(0 ≤ (value : Int) ∧ (value : Int) ≤ 0x10FFFF ∧
        ¬(0xD800 ≤ (value : Int) ∧ (value : Int) ≤ 0xDFFF)) := by
      unfold IsScalarValue at scalar
      omega
    rw [if_neg scalar, dif_neg outOfRange]
    exact .failure

theorem reports_decode (digits element : Text) :
    Reports (faults element digits) (decode digits element) := by
  unfold faults decode number
  cases Hex.read? digits with
  | none => exact .failure
  | some value => exact reports_character value element

theorem reports_codePoint (digits : Text) :
    Reports (if digits = [] then [] else faults "cp" digits) (codePoint digits) := by
  unfold codePoint
  split
  · exact .success
  · exact reports_decode digits "cp"

theorem reports_sequence (value : Text) :
    Reports (faultsOfAll "settings" (Text.splitOn 'u' value)) (sequence value) := by
  rw [← faultsOfAll_filter]
  refine Reports.bind_success (Reports.mapM fun digits member => ?_) fun decoded => .success
  have present : digits ≠ [] := by simpa using (List.mem_filter.mp member).2
  rw [if_neg present]
  exact reports_decode digits "settings"

end Reference

/-- Looking a key up in a table fails exactly if the table does not list it. -/
theorem reports_lookup {Key Entry Value : Type} [BEq Key] [LawfulBEq Key]
    (table : List (Key × Entry)) (key : Key) (fault : Fault) (answer : Entry → Value) :
    Reports (if key ∈ table.map Prod.fst then [] else [fault])
      ((table.lookup key).elim (.error fault) fun value => .ok (answer value)) := by
  cases looked : table.lookup key with
  | none =>
      have unlisted : key ∉ table.map Prod.fst := by
        intro listed
        obtain ⟨entry, member, rfl⟩ := List.mem_map.mp listed
        simpa using List.lookup_eq_none_iff.mp looked entry member
      rw [if_neg unlisted]
      exact .failure
  | some value =>
      have listed : key ∈ table.map Prod.fst := by
        obtain ⟨front, back, rfl, _⟩ := List.lookup_eq_some_iff.mp looked
        simp
      rw [if_pos listed]
      exact .success

namespace Role

/-- What can stand among the rules of a collation. -/
def isRule : Role → Bool
  | reset => true
  | relation _ => true
  | sequence _ => true
  | extended => true
  | context => false
  | extension => false

/-- What can be a part of an extended item. -/
def isPart : Role → Bool
  | context => true
  | relation _ => true
  | extension => true
  | reset => false
  | sequence _ => false
  | extended => false

end Role

namespace Setting

/-- The faults of a setting. A strength or a direction must be one that ICU knows,
and a variable top must spell characters. -/
def faults (name value : Text) : List Fault :=
  if name = "strength" then
    if value ∈ strengths.map Prod.fst then [] else [.unknownStrength value]
  else if name = "backwards" then
    if value ∈ backwards.map Prod.fst then [] else [.unknownBackwards value]
  else if name = topName then Reference.faultsOfAll "settings" (Text.splitOn 'u' value)
  else []

/-- What makes a setting faulty. -/
inductive Offends : Text → Text → Prop where
  | strength {value} : value ∉ strengths.map Prod.fst → Offends "strength" value
  | backwards {value} : value ∉ Setting.backwards.map Prod.fst → Offends "backwards" value
  | variableTop {value piece} :
      piece ∈ Text.splitOn 'u' value → piece ≠ [] → Reference.Rejects piece →
      Offends topName value

theorem backwards_ne_strength : ("backwards" : Text) ≠ "strength" := by decide

theorem topName_ne_strength : topName ≠ ("strength" : Text) := by decide

theorem topName_ne_backwards : topName ≠ ("backwards" : Text) := by decide

theorem faults_ne_nil_iff {name value : Text} : faults name value ≠ [] ↔ Offends name value := by
  unfold faults
  constructor
  · intro faulty
    split at faulty
    · next named =>
        subst named
        exact .strength (by simpa using faulty)
    split at faulty
    · next named =>
        subst named
        exact .backwards (by simpa using faulty)
    split at faulty
    · next named =>
        subst named
        obtain ⟨piece, member, present, rejected⟩ := Reference.faultsOfAll_ne_nil_iff.mp faulty
        exact .variableTop member present rejected
    · exact absurd rfl faulty
  · intro offends
    cases offends with
    | strength unlisted =>
        rw [if_pos rfl, if_neg unlisted]
        exact List.cons_ne_nil _ _
    | backwards unlisted =>
        rw [if_neg backwards_ne_strength, if_pos rfl, if_neg unlisted]
        exact List.cons_ne_nil _ _
    | variableTop member present rejected =>
        rw [if_neg topName_ne_strength, if_neg topName_ne_backwards, if_pos rfl]
        exact Reference.faultsOfAll_ne_nil_iff.mpr ⟨_, member, present, rejected⟩

theorem read_strength (value : Text) :
    read "strength" value = (strengths.lookup value).elim (.error (.unknownStrength value))
      fun spelling => .ok (.directive "strength" spelling) := by
  unfold read
  rw [if_neg (by decide), if_pos rfl]
  cases strengths.lookup value with
  | none => rfl
  | some spelling => rfl

theorem read_backwards (value : Text) :
    read "backwards" value = (backwards.lookup value).elim (.error (.unknownBackwards value))
      fun spelling => .ok (.directive "backwards" spelling) := by
  unfold read
  rw [if_neg (by decide), if_neg backwards_ne_strength, if_pos rfl]
  cases backwards.lookup value with
  | none => rfl
  | some spelling => rfl

theorem reports_read (name value : Text) : Reports (faults name value) (read name value) := by
  unfold faults
  split
  · next named =>
      rw [named, read_strength]
      exact reports_lookup _ _ _ _
  next notStrength =>
  split
  · next named =>
      rw [named, read_backwards]
      exact reports_lookup _ _ _ _
  next notBackwards =>
  split
  · next named =>
      rw [named, read_topName]
      exact (Reference.reports_sequence value).map _
  next notTop =>
  unfold read
  rw [if_neg notStrength, if_neg notBackwards]
  split
  · exact .success
  split
  · exact .success
  split
  · next named => exact absurd named notTop
  · exact .success

end Setting

namespace Item

/-! ## Items -/

def referenceFaults (item : Item) : List Fault :=
  Reference.faultsOfAll "cp" item.codePoints

def absenceFaults (item : Item) : List Fault :=
  if item.isEmpty then [.emptyRule item.kind] else []

/-- The faults of the data of an item. An anchor stands in place of character
references, which are then not looked at. -/
def datumFaults (item : Item) : List Fault :=
  item.absenceFaults ++ if item.anchor.isSome then [] else item.referenceFaults

def beforeFaults (item : Item) : List Fault :=
  match item.before with
  | none => []
  | some value =>
      if value = [] then []
      else if value ∈ beforeOptions.map Prod.fst then [] else [.unknownBefore value item.kind]

def partFaults (part : Item) : List Fault :=
  if part.role?.any Role.isPart then part.datumFaults else [.unknownPart part.kind]

/-- The faults of an item, in the order in which they are met. The references of a
sequence are looked at even if it has an anchor. -/
def faults (item : Item) : List Fault :=
  match item.role? with
  | some .reset => item.beforeFaults ++ item.datumFaults
  | some (.relation _) => item.datumFaults
  | some (.sequence _) => item.absenceFaults ++ item.referenceFaults
  | some .extended => item.children.flatMap partFaults
  | _ => [.unknownRule item.kind]

def Misspells (item : Item) : Prop :=
  ∃ digits ∈ item.codePoints, digits ≠ [] ∧ Reference.Rejects digits

def LacksDatum (item : Item) : Prop :=
  item.isEmpty = true ∨ item.anchor = none ∧ item.Misspells

/-- What makes an item faulty, kind by kind. -/
inductive Offends : Item → Prop where
  | unknown {item} : item.role?.any Role.isRule = false → Offends item
  | before {item value} :
      item.role? = some .reset → item.before = some value → value ≠ [] →
      value ∉ beforeOptions.map Prod.fst → Offends item
  | reset {item} : item.role? = some .reset → item.LacksDatum → Offends item
  | relation {item strength} :
      item.role? = some (.relation strength) → item.LacksDatum → Offends item
  | sequence {item strength} :
      item.role? = some (.sequence strength) → item.isEmpty = true ∨ item.Misspells →
      Offends item
  | extended {item part} :
      item.role? = some .extended → part ∈ item.children →
      part.role?.any Role.isPart = false ∨ part.LacksDatum → Offends item

theorem referenceFaults_ne_nil_iff {item : Item} :
    item.referenceFaults ≠ [] ↔ item.Misspells :=
  Reference.faultsOfAll_ne_nil_iff

theorem absenceFaults_ne_nil_iff {item : Item} :
    item.absenceFaults ≠ [] ↔ item.isEmpty = true := by
  simp [absenceFaults]

theorem datumFaults_ne_nil_iff {item : Item} : item.datumFaults ≠ [] ↔ item.LacksDatum := by
  unfold datumFaults LacksDatum
  rw [← absenceFaults_ne_nil_iff, ← referenceFaults_ne_nil_iff]
  cases item.anchor with
  | none => simp [or_iff_not_imp_left]
  | some name => simp

theorem beforeFaults_ne_nil_iff {item : Item} :
    item.beforeFaults ≠ [] ↔ ∃ value, item.before = some value ∧ value ≠ [] ∧
      value ∉ beforeOptions.map Prod.fst := by
  unfold beforeFaults
  cases item.before with
  | none => simp
  | some value => simp

theorem partFaults_ne_nil_iff {part : Item} :
    part.partFaults ≠ [] ↔ part.role?.any Role.isPart = false ∨ part.LacksDatum := by
  unfold partFaults
  cases known : part.role?.any Role.isPart with
  | false => simp
  | true => simpa using datumFaults_ne_nil_iff

theorem faults_ne_nil_iff {item : Item} : item.faults ≠ [] ↔ item.Offends := by
  constructor
  · intro faulty
    unfold faults at faulty
    split at faulty
    · next role =>
        rw [ne_eq, List.append_eq_nil_iff, not_and_or] at faulty
        rcases faulty with faulty | faulty
        · obtain ⟨value, given, present, unlisted⟩ := beforeFaults_ne_nil_iff.mp faulty
          exact .before role given present unlisted
        · exact .reset role (datumFaults_ne_nil_iff.mp faulty)
    · next strength role => exact .relation role (datumFaults_ne_nil_iff.mp faulty)
    · next strength role =>
        rw [ne_eq, List.append_eq_nil_iff, not_and_or] at faulty
        rcases faulty with faulty | faulty
        · exact .sequence role (.inl (absenceFaults_ne_nil_iff.mp faulty))
        · exact .sequence role (.inr (referenceFaults_ne_nil_iff.mp faulty))
    · next role =>
        obtain ⟨part, member, faulty⟩ : ∃ part ∈ item.children, part.partFaults ≠ [] := by
          simpa using faulty
        exact .extended role member (partFaults_ne_nil_iff.mp faulty)
    · next notReset notRelation notSequence notExtended =>
        refine .unknown ?_
        cases role : item.role? with
        | none => rfl
        | some found =>
            cases found with
            | reset => exact absurd role notReset
            | relation strength => exact absurd role (notRelation strength)
            | sequence strength => exact absurd role (notSequence strength)
            | extended => exact absurd role notExtended
            | context => rfl
            | extension => rfl
  · intro offends
    cases offends with
    | unknown unruly =>
        -- the roles that can stand among rules are those with a case of their own
        unfold faults
        split
        all_goals simp_all [Role.isRule]
    | before role given present unlisted =>
        have faulty := beforeFaults_ne_nil_iff.mpr ⟨_, given, present, unlisted⟩
        simp only [faults, role]
        exact List.append_ne_nil_of_left_ne_nil faulty _
    | reset role lacking =>
        simp only [faults, role]
        exact List.append_ne_nil_of_right_ne_nil _ (datumFaults_ne_nil_iff.mpr lacking)
    | relation role lacking =>
        simp only [faults, role]
        exact datumFaults_ne_nil_iff.mpr lacking
    | sequence role lacking =>
        simp only [faults, role]
        rcases lacking with empty | misspelt
        · exact List.append_ne_nil_of_left_ne_nil (absenceFaults_ne_nil_iff.mpr empty) _
        · exact List.append_ne_nil_of_right_ne_nil _ (referenceFaults_ne_nil_iff.mpr misspelt)
    | @extended part role member lacking =>
        simp only [faults, role, ne_eq, List.flatMap_eq_nil_iff]
        intro faultless
        exact partFaults_ne_nil_iff.mpr lacking (faultless part member)

theorem reports_data (item : Item) : Reports item.referenceFaults item.data :=
  Reports.bind_success (Reports.mapM fun digits _ => Reference.reports_codePoint digits)
    fun _ => .success

theorem reports_literal (item : Item) : Reports item.datumFaults item.literal := by
  unfold datumFaults absenceFaults literal
  split
  · exact .failure
  · cases item.anchor with
    | none => exact item.reports_data.map _
    | some name => exact .success

theorem beforeOption_of_value {item : Item} {value : Text} (given : item.before = some value)
    (present : value ≠ []) :
    item.beforeOption =
      (beforeOptions.lookup value).elim (.error (.unknownBefore value item.kind)) .ok := by
  obtain ⟨c, rest, rfl⟩ := List.exists_cons_of_ne_nil present
  simp only [beforeOption, given]
  cases beforeOptions.lookup (c :: rest) with
  | none => rfl
  | some option => rfl

theorem reports_beforeOption (item : Item) : Reports item.beforeFaults item.beforeOption := by
  unfold beforeFaults
  cases given : item.before with
  | none =>
      simp only [beforeOption, given]
      exact .success
  | some value =>
      by_cases present : value = []
      · simp only [beforeOption, given, present]
        exact .success
      · rw [beforeOption_of_value given present]
        simp only [present, if_false]
        exact reports_lookup _ _ _ _

theorem reports_extendBody (body : Text) (part : Item) :
    Reports part.partFaults (extendBody body part) := by
  unfold partFaults extendBody
  cases part.role? with
  | none => exact .failure
  | some role =>
      cases role with
      | context => exact part.reports_literal.map _
      | extension => exact part.reports_literal.map _
      | relation strength => exact part.reports_literal.map _
      | reset => exact .failure
      | sequence strength => exact .failure
      | extended => exact .failure

theorem reports_clauses (item : Item) : Reports item.faults item.clauses := by
  unfold faults clauses
  cases item.role? with
  | none => exact .failure
  | some role =>
      cases role with
      | reset =>
          refine item.reports_beforeOption.bind fun before => ?_
          exact item.reports_literal.bind_success fun datum => .success
      | relation strength => exact item.reports_literal.bind_success fun datum => .success
      | sequence strength =>
          unfold absenceFaults
          cases item.isEmpty with
          | true => exact .failure
          | false => exact item.reports_data.bind_success fun data => .success
      | extended =>
          exact (Reports.foldlM reports_extendBody _ _).bind_success fun body => .success
      | context => exact .failure
      | extension => exact .failure

theorem reports_clausesOfAll (items : List Item) :
    Reports (items.flatMap faults) (clausesOfAll items) :=
  Reports.bind_success (Reports.mapM fun item _ => item.reports_clauses) fun _ => .success

end Item

namespace Collation

/-! ## Collations -/

/-- The faults of a collation, in the order in which they are met. -/
def faults (collation : Collation) : List Fault :=
  (collation.settings.getD []).flatMap (fun setting => Setting.faults setting.1 setting.2) ++
    (collation.rules.getD []).flatMap Item.faults

/-- A setting or an item of the collation is faulty. -/
def Offends (collation : Collation) : Prop :=
  (∃ setting ∈ collation.settings.getD [], Setting.Offends setting.1 setting.2) ∨
    ∃ item ∈ collation.rules.getD [], item.Offends

theorem faults_ne_nil_iff {collation : Collation} :
    collation.faults ≠ [] ↔ collation.Offends := by
  simp only [faults, Offends, ne_eq, List.append_eq_nil_iff, List.flatMap_eq_nil_iff,
    not_and_or, not_forall, exists_prop, ← Setting.faults_ne_nil_iff, ← Item.faults_ne_nil_iff]

theorem reports_icuRules (newline : Text) (collation : Collation) :
    Reports collation.faults (collation.icuRules newline) := by
  refine Reports.bind (Reports.mapM fun setting _ => Setting.reports_read setting.1 setting.2) ?_
  intro settings
  exact (Item.reports_clausesOfAll _).bind_success fun clauses => .success

/-- A collation has no ICU rules exactly if one of its settings or items is
faulty. The first fault is reported, whatever the line break and the options. -/
theorem icuRules_reports_first_fault (newline : Text) (collation : Collation) :
    ((∃ fault, collation.icuRules newline = .error fault) ↔ collation.Offends) ∧
      (∀ fault, collation.icuRules newline = .error fault ↔
        collation.faults.head? = some fault) ∧
      ∀ (otherNewline : Text) (suppressed optimized : Option Text) (fault : Fault),
        { collation with suppressContractions := suppressed, optimize := optimized }.icuRules
            otherNewline = .error fault ↔
          collation.icuRules newline = .error fault := by
  have reports := collation.reports_icuRules newline
  refine ⟨?_, fun fault => reports.eq_error_iff, ?_⟩
  · rw [reports.exists_error_iff, faults_ne_nil_iff]
  · intro otherNewline suppressed optimized fault
    rw [reports.eq_error_iff, (reports_icuRules otherNewline _).eq_error_iff]
    rfl

end Collation

end Tailoring

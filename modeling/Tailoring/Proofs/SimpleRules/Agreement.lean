import Tailoring.Proofs.IcuRules.Faults
import Tailoring.Proofs.SimpleRules.Token

/-!
# Simple rules beside ICU rules

Both ways of writing a collation read the same items, but look for different
faults. Simple rules take an item without content and do not see anchors after
the first item; where there are none of these, a collation that simple rules
reject is rejected by ICU rules for the same fault.
-/

set_option autoImplicit false

namespace Tailoring

namespace Item

/-- The item is a relation or a sequence. -/
def Relates (item : Item) : Prop :=
  ∃ strength, item.role? = some (.relation strength) ∨ item.role? = some (.sequence strength)

theorem referenceFaults_of_data {item : Item} {data : Text} (read : item.data = .ok data) :
    item.referenceFaults = [] := by
  have reports := item.reports_data
  rw [read] at reports
  exact reports.nil_of_ok

/-- A relation or a sequence whose data can be read has no other fault than to be
empty. -/
theorem Relates.faults_of_data {item : Item} {data : Text} (relates : item.Relates)
    (read : item.data = .ok data) : item.faults = item.absenceFaults := by
  obtain ⟨strength, role | role⟩ := relates
  · simp [faults, role, datumFaults, referenceFaults_of_data read]
  · simp [faults, role, referenceFaults_of_data read]

theorem Relates.faults_of_noAnchor {item : Item} (relates : item.Relates)
    (noAnchor : item.anchor = none) :
    item.faults = item.absenceFaults ++ item.referenceFaults := by
  obtain ⟨strength, role | role⟩ := relates
  · simp [faults, role, datumFaults, noAnchor]
  · simp [faults, role]

theorem absenceFaults_of_present {item : Item} (present : item.isEmpty = false) :
    item.absenceFaults = [] := by
  simp [absenceFaults, present]

theorem head?_flatMap_absenceFaults (items : List Item) :
    (items.flatMap absenceFaults).head? =
      (items.find? isEmpty).map fun item => .emptyRule item.kind := by
  induction items with
  | nil => rfl
  | cons item items ih =>
      cases empty : item.isEmpty with
      | true => simp [absenceFaults, empty]
      | false => simpa [absenceFaults, empty] using ih

end Item

namespace SimpleRules

/-! ## What simple rules look at -/

/-- An item is left alone, or it is a relation or a sequence and its data is
read. -/
theorem addItem_cases (newline : Text) (draft : Draft) (item : Item) :
    addItem newline draft item = .ok none ∨
      item.Relates ∧ ∃ write : Text → Draft,
        addItem newline draft item = item.data.map fun data => some (write data) := by
  unfold addItem
  split
  · next strength role =>
      split
      · exact .inr ⟨⟨strength, .inl role⟩, _, rfl⟩
      · exact .inl rfl
  · next strength role =>
      split
      · exact .inr ⟨⟨strength, .inr role⟩, _, rfl⟩
      · exact .inl rfl
  · exact .inl rfl

theorem relates_of_addItem {newline : Text} {draft draft' : Draft} {item : Item}
    (added : addItem newline draft item = .ok (some draft')) :
    item.Relates ∧ ∃ data, item.data = .ok data := by
  rcases addItem_cases newline draft item with untold | ⟨relates, write, told⟩
  · rw [untold] at added
    cases added
  · rw [told] at added
    obtain ⟨data, read, _⟩ := Outcome.map_eq_ok_iff.mp added
    exact ⟨relates, data, read⟩

theorem relates_of_addItem_error {newline : Text} {draft : Draft} {item : Item} {fault : Fault}
    (rejected : addItem newline draft item = .error fault) :
    item.Relates ∧ item.data = .error fault := by
  rcases addItem_cases newline draft item with untold | ⟨relates, write, told⟩
  · rw [untold] at rejected
    cases rejected
  · rw [told] at rejected
    exact ⟨relates, Outcome.map_eq_error_iff.mp rejected⟩

theorem faults_of_addItem {newline : Text} {draft draft' : Draft} {item : Item}
    (added : addItem newline draft item = .ok (some draft')) :
    item.faults = item.absenceFaults := by
  obtain ⟨relates, data, read⟩ := relates_of_addItem added
  exact relates.faults_of_data read

theorem faults_of_addItems {newline : Text} {draft draft' : Draft} {items : List Item}
    (added : addItems newline draft items = .ok (some draft')) :
    items.flatMap Item.faults = items.flatMap Item.absenceFaults := by
  induction items generalizing draft with
  | nil => rfl
  | cons item items ih =>
      obtain ⟨between?, addedFirst, added⟩ := Outcome.bind_eq_ok_iff.mp added
      cases between? with
      | none => cases added
      | some between =>
          rw [List.flatMap_cons, List.flatMap_cons, faults_of_addItem addedFirst, ih added]

theorem faults_of_isStart {item : Item} (starts : isStart item = .ok true) :
    item.faults = [] := by
  obtain ⟨role, option, literal⟩ := isStart_eq_true_iff.mp starts
  have before := item.reports_beforeOption
  have datum := item.reports_literal
  rw [option] at before
  rw [literal] at datum
  simp [Item.faults, role, before.nil_of_ok, datum.nil_of_ok]

/-- The first item is rejected for its first fault. -/
theorem head?_faults_of_isStart_error {item : Item} {fault : Fault}
    (rejected : isStart item = .error fault) : item.faults.head? = some fault := by
  unfold isStart at rejected
  split at rejected
  · next role =>
      have before := item.reports_beforeOption
      simp only [Item.faults, role, List.head?_append]
      rcases Outcome.bind_eq_error_iff.mp rejected with rejected | ⟨option, known, rejected⟩
      · rw [before.eq_error_iff.mp rejected]
        rfl
      · rw [known] at before
        rw [before.nil_of_ok]
        split at rejected
        · rcases Outcome.bind_eq_error_iff.mp rejected with rejected | ⟨position, _, rejected⟩
          · exact item.reports_literal.eq_error_iff.mp rejected
          · cases rejected
        · cases rejected
  · cases rejected

/-- Items with content and without anchors are rejected for their first fault. -/
theorem head?_faults_of_addItems_error {newline : Text} {draft : Draft} {items : List Item}
    {fault : Fault} (plain : ∀ item ∈ items, item.isEmpty = false ∧ item.anchor = none)
    (rejected : addItems newline draft items = .error fault) :
    (items.flatMap Item.faults).head? = some fault := by
  induction items generalizing draft with
  | nil => cases rejected
  | cons item items ih =>
      obtain ⟨present, noAnchor⟩ := plain item (by simp)
      have plainRest := fun later member => plain later (.tail item member)
      rw [List.flatMap_cons, List.head?_append]
      rcases Outcome.bind_eq_error_iff.mp rejected with rejected | ⟨between?, added, rejected⟩
      · obtain ⟨relates, unread⟩ := relates_of_addItem_error rejected
        rw [relates.faults_of_noAnchor noAnchor, Item.absenceFaults_of_present present,
          List.nil_append, item.reports_data.eq_error_iff.mp unread]
        rfl
      · cases between? with
        | none => cases rejected
        | some between =>
            rw [faults_of_addItem added, Item.absenceFaults_of_present present, ih plainRest rejected]
            rfl

theorem faults_of_ofItems {newline text : Text} {items : List Item}
    (accepted : ofItems newline items = .ok (some text)) :
    items.flatMap Item.faults = items.tail.flatMap Item.absenceFaults := by
  cases items with
  | nil => rfl
  | cons first rest =>
      obtain ⟨starts, draft, added, _⟩ := ofItems_cons_eq_some accepted
      rw [List.flatMap_cons, faults_of_isStart starts, faults_of_addItems added, List.nil_append,
        List.tail_cons]

theorem head?_faults_of_ofItems_error {newline : Text} {items : List Item} {fault : Fault}
    (plain : ∀ item ∈ items.tail, item.isEmpty = false ∧ item.anchor = none)
    (rejected : ofItems newline items = .error fault) :
    (items.flatMap Item.faults).head? = some fault := by
  cases items with
  | nil => cases rejected
  | cons first rest =>
      rw [List.tail_cons] at plain
      rw [List.flatMap_cons, List.head?_append]
      rcases Outcome.bind_eq_error_iff.mp rejected with rejected | ⟨starts, started, rejected⟩
      · rw [head?_faults_of_isStart_error rejected]
        rfl
      · cases starts with
        | false => cases rejected
        | true =>
            rcases Outcome.bind_eq_error_iff.mp rejected with rejected | ⟨draft, _, rejected⟩
            · rw [faults_of_isStart started, head?_faults_of_addItems_error plain rejected]
              rfl
            · cases rejected

end SimpleRules

namespace Collation

theorem faults_of_noSettings {collation : Collation} (noSettings : collation.settings = none) :
    collation.faults = (collation.rules.getD []).flatMap Item.faults := by
  simp [faults, noSettings]

/-- A collation with simple rules has no other fault than items without content. -/
theorem faults_of_simpleRules {newline text : Text} {collation : Collation}
    (accepted : collation.simpleRules? newline = .ok (some text)) :
    collation.faults = (collation.rules.getD []).tail.flatMap Item.absenceFaults := by
  unfold simpleRules? at accepted
  split at accepted
  · cases accepted
  · next noSettings noRules => simp [faults_of_noSettings noSettings, noRules]
  · next items noSettings rules =>
      rw [faults_of_noSettings noSettings, rules]
      exact SimpleRules.faults_of_ofItems accepted

theorem exists_error_iff_of_simpleRules {newline text : Text} {collation : Collation}
    (accepted : collation.simpleRules? newline = .ok (some text)) :
    (∃ fault, collation.icuRules newline = .error fault) ↔
      ∃ item ∈ (collation.rules.getD []).tail, item.isEmpty = true := by
  rw [(collation.reports_icuRules newline).exists_error_iff, faults_of_simpleRules accepted]
  simp [Item.absenceFaults]

theorem head?_faults_of_simpleRules_error {newline : Text} {collation : Collation}
    {fault : Fault}
    (plain : ∀ item ∈ (collation.rules.getD []).tail, item.isEmpty = false ∧ item.anchor = none)
    (rejected : collation.simpleRules? newline = .error fault) :
    collation.faults.head? = some fault := by
  unfold simpleRules? at rejected
  split at rejected
  · cases rejected
  · cases rejected
  · next items noSettings rules =>
      rw [rules] at plain
      rw [faults_of_noSettings noSettings, rules]
      exact SimpleRules.head?_faults_of_ofItems_error plain rejected

/-- A collation with simple rules has no ICU rules exactly if an item after the
first is empty. Without such items and anchors, the fault for which simple rules
reject a collation is the one for which ICU rules do. -/
theorem icuRules_beside_simpleRules (newline : Text) (collation : Collation) :
    (∀ text, collation.simpleRules? newline = .ok (some text) →
      ((∃ fault, collation.icuRules newline = .error fault) ↔
        ∃ item ∈ (collation.rules.getD []).tail, item.isEmpty = true) ∧
      ∀ item, (collation.rules.getD []).tail.find? Item.isEmpty = some item →
        collation.icuRules newline = .error (.emptyRule item.kind)) ∧
    ((∀ item ∈ (collation.rules.getD []).tail, item.isEmpty = false ∧ item.anchor = none) →
      ∀ fault, collation.simpleRules? newline = .error fault →
        collation.icuRules newline = .error fault) := by
  have reports := collation.reports_icuRules newline
  constructor
  · intro text accepted
    refine ⟨exists_error_iff_of_simpleRules accepted, ?_⟩
    intro item first
    rw [reports.eq_error_iff, faults_of_simpleRules accepted, Item.head?_flatMap_absenceFaults,
      first]
    rfl
  · intro plain fault rejected
    rw [reports.eq_error_iff]
    exact head?_faults_of_simpleRules_error plain rejected

/-- Of two items without content the first is reported, and a sequence with a
misspelt character is rejected both ways. -/
theorem icuRules_beside_simpleRules_at_third :
    let start : Item :=
      { kind := "reset", before := some "primary", anchor := some "first_non_ignorable" }
    let hollow : Collation :=
      { rules := some [start, { kind := "p", text := "a" }, { kind := "sc" }, { kind := "t" }] }
    let misspelt : Collation :=
      { rules := some
          [start, { kind := "p", text := "a" }, { kind := "tc", codePoints := ["62", "6G"] }] }
    (hollow.simpleRules? [lineFeed] = .ok (some ("(a )" : Text)) ∧
        hollow.icuRules [lineFeed] = .error (.emptyRule "sc")) ∧
      misspelt.simpleRules? [lineFeed] = .error (.notHex "6G" "cp") ∧
        misspelt.icuRules [lineFeed] = .error (.notHex "6G" "cp") := by
  intro start hollow misspelt
  have accepted : hollow.simpleRules? [lineFeed] = .ok (some ("(a )" : Text)) := rfl
  have rejected : misspelt.simpleRules? [lineFeed] = .error (.notHex "6G" "cp") := rfl
  have reported :=
    ((icuRules_beside_simpleRules [lineFeed] hollow).1 _ accepted).2 { kind := "sc" } rfl
  have plain : ∀ item ∈ (misspelt.rules.getD []).tail,
      item.isEmpty = false ∧ item.anchor = none := by decide
  exact ⟨⟨accepted, reported⟩, rejected,
    (icuRules_beside_simpleRules [lineFeed] misspelt).2 plain _ rejected⟩

end Collation

end Tailoring

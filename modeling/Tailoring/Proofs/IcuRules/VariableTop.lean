import Tailoring.Proofs.IcuRules.Emission

/-!
# Where the variable top goes

The writer carries the pending variable top from clause to clause. Seen from
outside there is no such state: the marker follows the first datum that is the
target, wherever that datum comes from, and if there is none a reset to the
target stands right after the settings.
-/

set_option autoImplicit false

namespace Tailoring

namespace IcuRules

theorem write_cons (newline : Text) (pending : Option Text) (clause : Clause)
    (rest : List Clause) :
    write newline pending (clause :: rest) =
      let (mark, pending') := clause.datum?.elim ([], pending) (VariableTop.take pending)
      let (written, pending'') := write newline pending' rest
      (clause.text newline ++ mark ++ written, pending'') := by
  cases datum : clause.datum? with
  | none => simp [write, Clause.text, datum]
  | some value => simp [write, Clause.text, datum]

/-- Writing passes on what is pending, so a list is written piece by piece. -/
theorem write_append (newline : Text) (pending : Option Text) (front back : List Clause) :
    write newline pending (front ++ back) =
      let (written, pending') := write newline pending front
      let (written', pending'') := write newline pending' back
      (written ++ written', pending'') := by
  induction front generalizing pending with
  | nil => simp [write]
  | cons clause front ih => simp [write_cons, ih]

theorem write_none (newline : Text) (clauses : List Clause) :
    write newline none clauses = (clauses.flatMap (Clause.text newline), none) := by
  induction clauses with
  | nil => rfl
  | cons clause clauses ih =>
      cases datum : clause.datum? with
      | none => simp [write_cons, ih, datum]
      | some value => simp [write_cons, ih, datum, VariableTop.take]

/-- A target that is no datum stays pending and leaves no trace in the text. -/
theorem write_of_absent {newline target : Text} {clauses : List Clause}
    (absent : ∀ clause ∈ clauses, clause.datum? ≠ some target) :
    write newline (some target) clauses =
      (clauses.flatMap (Clause.text newline), some target) := by
  induction clauses with
  | nil => rfl
  | cons clause clauses ih =>
      have head := absent clause (by simp)
      have tail := ih fun later member => absent later (by simp [member])
      cases datum : clause.datum? with
      | none => simp [write_cons, tail, datum]
      | some value =>
          have different : ¬target = value := by
            rintro rfl
            exact head datum
          simp [write_cons, tail, datum, VariableTop.take, different]

/-- The first datum that is the target takes the marker, and with it the target:
nothing after it is looked at. -/
theorem write_of_first {newline target : Text} {clause : Clause} {front back : List Clause}
    (absent : ∀ earlier ∈ front, earlier.datum? ≠ some target)
    (found : clause.datum? = some target) :
    write newline (some target) (front ++ clause :: back) =
      (front.flatMap (Clause.text newline) ++ clause.text newline ++ VariableTop.marker ++
        back.flatMap (Clause.text newline), none) := by
  simp [write_append, write_of_absent absent, write_cons, found, VariableTop.take, write_none]

end IcuRules

namespace VariableTop

/-- Where the marker of a target goes among clauses: the reset to put right after
the settings, and the body. -/
inductive Placement (newline target : Text) : List Clause → Text → Text → Prop where
  /-- No datum is the target. -/
  | fallback {clauses} :
      (∀ clause ∈ clauses, clause.datum? ≠ some target) →
      Placement newline target clauses (newline ++ "&" ++ target ++ " < [variable top]")
        (clauses.flatMap (Clause.text newline))
  /-- This clause is the first whose datum is the target. -/
  | first {front clause back} :
      (∀ earlier ∈ front, earlier.datum? ≠ some target) → clause.datum? = some target →
      Placement newline target (front ++ clause :: back) []
        (front.flatMap (Clause.text newline) ++ clause.text newline ++ " < [variable top]" ++
          back.flatMap (Clause.text newline))

theorem placement_write (newline target : Text) (clauses : List Clause) :
    let (body, pending) := IcuRules.write newline (some target) clauses
    Placement newline target clauses (fallback newline pending) body := by
  cases found : clauses.find? (fun clause => decide (clause.datum? = some target)) with
  | none =>
      have absent : ∀ clause ∈ clauses, clause.datum? ≠ some target := by
        simpa [List.find?_eq_none] using found
      simp only [IcuRules.write_of_absent absent]
      exact .fallback absent
  | some clause =>
      obtain ⟨datum, front, back, rfl, absent⟩ := List.find?_eq_some_iff_append.mp found
      have datum : clause.datum? = some target := by simpa using datum
      have absent : ∀ earlier ∈ front, earlier.datum? ≠ some target := by simpa using absent
      simp only [IcuRules.write_of_first absent datum]
      exact .first absent datum

end VariableTop

namespace Setting

/-- The name of the setting that gives the variable top. -/
def topName : Text := "variableTop"

/-- What each setting says, in order. -/
def Reads (given : List (Text × Text)) (settings : List Setting) : Prop :=
  List.Forall₂ (fun pair setting => read pair.1 pair.2 = .ok setting) given settings

theorem readAll_eq_ok_iff {given : List (Text × Text)} {settings : List Setting} :
    readAll given = .ok settings ↔ Reads given settings :=
  Outcome.mapM_eq_ok_iff

theorem read_topName (value : Text) :
    read topName value =
      (Reference.sequence value).map fun top => .variableTop (Literal.ofText top) := by
  have notVerbatim : verbatim.contains topName = false := by decide
  have notStrength : topName ≠ ("strength" : Text) := by decide
  have notBackwards : topName ≠ ("backwards" : Text) := by decide
  have notHiragana : topName ≠ ("hiraganaQuaternary" : Text) := by decide
  have named : topName = ("variableTop" : Text) := rfl
  simp only [read, notVerbatim, notStrength, notBackwards, notHiragana, if_pos named, if_false,
    Bool.false_eq_true]

/-- Only the variable top has a target. -/
theorem target?_of_read {name value : Text} {setting : Setting}
    (other : name ≠ topName) (said : read name value = .ok setting) :
    setting.target? = none := by
  unfold read at said
  split at said
  · cases said
    rfl
  split at said
  · split at said <;> cases said
    rfl
  split at said
  · split at said <;> cases said
    rfl
  split at said
  · cases said
    rfl
  split at said
  · next named => exact absurd named other
  · cases said
    rfl

theorem renderAll_eq (newline : Text) (settings : List Setting) :
    renderAll newline settings = settings.flatMap fun
      | .directive name value => (newline ++ "[" ++ name ++ " " ++ value ++ "]" : Text)
      | _ => [] := by
  unfold renderAll
  congr 1
  funext setting
  cases setting with
  | directive => rfl
  | variableTop => rfl
  | unsupported => rfl

/-- The value given last for the variable top. -/
def lastTop? (given : List (Text × Text)) : Option Text :=
  (given.filter (·.1 = topName)).getLast?.map (·.2)

/-- The targets are those of the values given for the variable top. -/
theorem Reads.targets {given : List (Text × Text)} {settings : List Setting}
    (reads : Reads given settings) :
    List.Forall₂
      (fun pair target =>
        ∃ top, Reference.sequence pair.2 = .ok top ∧ Literal.ofText top = target)
      (given.filter (·.1 = topName)) (settings.filterMap target?) := by
  induction reads with
  | nil => exact .nil
  | @cons pair setting given settings said _ ih =>
      by_cases named : pair.1 = topName
      · rw [named, read_topName] at said
        obtain ⟨top, decoded, rfl⟩ := Outcome.map_eq_ok_iff.mp said
        simp only [List.filter_cons, named, decide_true, if_true, List.filterMap_cons, target?]
        exact .cons ⟨top, decoded, rfl⟩ ih
      · simpa [List.filter_cons, named, List.filterMap_cons, target?_of_read named said] using ih

theorem Reads.lastTarget? {given : List (Text × Text)} {settings : List Setting} {value : Text}
    (reads : Reads given settings) (last : lastTop? given = some value) :
    ∃ top, Reference.sequence value = .ok top ∧
      Setting.lastTarget? settings = some (Literal.ofText top) := by
  obtain ⟨pair, final, rfl⟩ := Option.map_eq_some_iff.mp last
  obtain ⟨earlier, split⟩ := List.getLast?_eq_some_iff.mp final
  have targets := List.forall₂_reverse_iff.mpr reads.targets
  rw [split, List.reverse_append, List.reverse_singleton, List.singleton_append,
    List.forall₂_cons_left_iff] at targets
  obtain ⟨target, others, ⟨top, decoded, rfl⟩, _, reversed⟩ := targets
  refine ⟨top, decoded, ?_⟩
  rw [Setting.lastTarget?, List.getLast?_eq_head?_reverse, reversed, List.head?_cons]

/-- Without the variable tops the directives are the same and no target is left. -/
theorem Reads.withoutTop {given : List (Text × Text)} {settings : List Setting}
    (reads : Reads given settings) (newline : Text) :
    ∃ others, Reads (given.filter (·.1 ≠ topName)) others ∧
      renderAll newline others = renderAll newline settings ∧
      Setting.lastTarget? others = none := by
  induction reads with
  | nil => exact ⟨[], .nil, rfl, rfl⟩
  | @cons pair setting given settings said _ ih =>
      obtain ⟨others, remaining, rendered, untargeted⟩ := ih
      by_cases named : pair.1 = topName
      · rw [named, read_topName] at said
        obtain ⟨top, _, rfl⟩ := Outcome.map_eq_ok_iff.mp said
        refine ⟨others, ?_, ?_, untargeted⟩
        · simpa [List.filter_cons, named] using remaining
        · simpa [renderAll, render] using rendered
      · refine ⟨setting :: others, ?_, ?_, ?_⟩
        · simpa [List.filter_cons, named, Reads] using And.intro said remaining
        · simpa [renderAll] using rendered
        · simpa [Setting.lastTarget?, List.filterMap_cons, target?_of_read named said]
            using untargeted

end Setting

namespace Collation

theorem icuRules_eq_ok_iff {newline output : Text} {collation : Collation} :
    collation.icuRules newline = .ok output ↔
      ∃ settings clauses, Setting.Reads (collation.settings.getD []) settings ∧
        Item.EmitAll (collation.rules.getD []) clauses ∧
        let (body, pending) := IcuRules.write newline (Setting.lastTarget? settings) clauses
        output = IcuRules.trim
          (Setting.renderAll newline settings ++ VariableTop.fallback newline pending ++
            collation.optionDirectives newline ++ body) := by
  simp only [icuRules, readSettings, clauses, Outcome.bind_eq_ok_iff, Outcome.pure_eq_ok_iff,
    Setting.readAll_eq_ok_iff, Item.clausesOfAll_eq_ok_iff]
  constructor
  · rintro ⟨settings, said, clauses, emitted, rfl⟩
    exact ⟨settings, clauses, said, emitted, rfl⟩
  · rintro ⟨settings, clauses, said, emitted, rfl⟩
    exact ⟨settings, said, clauses, emitted, rfl⟩

theorem optionDirectives_eq (newline : Text) (collation : Collation) :
    collation.optionDirectives newline =
      collation.suppressContractions.elim [] (fun characters =>
        (newline ++ "[suppress contractions " ++ characters ++ "]" : Text)) ++
      collation.optimize.elim [] (fun characters =>
        (newline ++ "[optimize " ++ characters ++ "]" : Text)) := by
  have opening : ∀ label : Text,
      newline ++ "[" ++ label ++ " " = newline ++ ("[" ++ label ++ " ") := by
    simp
  simp only [optionDirectives, OptionName.render, opening]
  rfl

theorem icuRules_of_bare {collation : Collation} {clauses : List Clause} (newline : Text)
    (noSettings : collation.settings = none)
    (noSuppression : collation.suppressContractions = none)
    (noOptimization : collation.optimize = none)
    (emitted : Item.EmitAll (collation.rules.getD []) clauses) :
    collation.icuRules newline =
      .ok (IcuRules.trim (clauses.flatMap (Clause.text newline))) := by
  apply icuRules_eq_ok_iff.mpr
  refine ⟨[], clauses, by rw [noSettings]; exact .nil, emitted, ?_⟩
  simp [Setting.lastTarget?, Setting.renderAll, IcuRules.write_none, VariableTop.fallback,
    optionDirectives, noSuppression, noOptimization]

/-- The same collation with no variable top among its settings. -/
def withoutVariableTop (collation : Collation) : Collation :=
  { collation with settings := collation.settings.map (·.filter (·.1 ≠ Setting.topName)) }

/-- ICU rules of a collation with a variable top. The target is the literal of
the value given last; the marker goes where `Placement` says, once; and without
the variable top the rules are the same less the marker and the reset. The
directives of the settings stand before the reset, those of the options after it. -/
theorem icuRules_places_variableTop {newline output value : Text} {collation : Collation}
    {given : List (Text × Text)} (settled : collation.settings = some given)
    (last : Setting.lastTop? given = some value)
    (written : collation.icuRules newline = .ok output) :
    let directives (settings : List Setting) : Text := settings.flatMap fun
      | .directive name value => (newline ++ "[" ++ name ++ " " ++ value ++ "]" : Text)
      | _ => []
    let options : Text :=
      collation.suppressContractions.elim [] (fun characters =>
        (newline ++ "[suppress contractions " ++ characters ++ "]" : Text)) ++
      collation.optimize.elim [] (fun characters =>
        (newline ++ "[optimize " ++ characters ++ "]" : Text))
    ∃ top settings clauses reset body,
      Reference.sequence value = .ok top ∧
      Setting.Reads given settings ∧
      Item.EmitAll (collation.rules.getD []) clauses ∧
      VariableTop.Placement newline (Literal.ofText top) clauses reset body ∧
      output = IcuRules.trim (directives settings ++ reset ++ options ++ body) ∧
      collation.withoutVariableTop.icuRules newline = .ok (IcuRules.trim
        (directives settings ++ options ++ clauses.flatMap (Clause.text newline))) := by
  intro directives options
  obtain ⟨settings, clauses, said, emitted, shape⟩ := icuRules_eq_ok_iff.mp written
  simp only [settled, Option.getD_some] at said
  obtain ⟨top, decoded, target⟩ := said.lastTarget? last
  obtain ⟨others, remaining, rendered, untargeted⟩ := said.withoutTop newline
  have placed := VariableTop.placement_write newline (Literal.ofText top) clauses
  have spelled : directives settings = Setting.renderAll newline settings :=
    (Setting.renderAll_eq newline settings).symm
  have chosen : options = collation.optionDirectives newline :=
    (optionDirectives_eq newline collation).symm
  rw [target] at shape
  refine ⟨top, settings, clauses, _, _, decoded, said, emitted, placed, ?_, ?_⟩
  · rw [spelled, chosen]
    exact shape
  · rw [spelled, chosen]
    apply icuRules_eq_ok_iff.mpr
    refine ⟨others, clauses, ?_, emitted, ?_⟩
    · simpa [withoutVariableTop, settled] using remaining
    · simp [untargeted, IcuRules.write_none, VariableTop.fallback, rendered, withoutVariableTop,
        optionDirectives]

/-- The later of two variable tops counts. In one collation the first of two hyphens
in a sequence takes the marker, in the other there is none to take it. -/
theorem icuRules_places_variableTop_amid_and_ahead :
    let collation (sequence : Text) : Collation :=
      { settings := some
          [("variableTop", "u0061"), ("strength", "primary"), ("variableTop", "u002D")]
        suppressContractions := some "[b]"
        optimize := some "[c]"
        rules := some [{ kind := "reset", text := "a" }, { kind := "pc", text := sequence }] }
    let Placed (collation : Collation) (output : Text) : Prop :=
      ∃ top clauses reset body,
        Reference.sequence "u002D" = .ok top ∧
        Item.EmitAll (collation.rules.getD []) clauses ∧
        VariableTop.Placement [lineFeed] (Literal.ofText top) clauses reset body ∧
        output = IcuRules.trim ("\n[strength 1]" ++ reset ++
          ("\n[suppress contractions [b]]" ++ "\n[optimize [c]]") ++ body) ∧
        collation.withoutVariableTop.icuRules [lineFeed] = .ok (IcuRules.trim
          ("\n[strength 1]" ++ ("\n[suppress contractions [b]]" ++ "\n[optimize [c]]") ++
            clauses.flatMap (Clause.text [lineFeed])))
    let amid : Text := "[strength 1]\n[suppress contractions [b]]\n[optimize [c]]" ++
      "\n& a < b < '-' < [variable top] < c < '-'"
    let ahead : Text := "[strength 1]\n&'-' < [variable top]" ++
      "\n[suppress contractions [b]]\n[optimize [c]]\n& a < b < c"
    (collation "b-c-").icuRules [lineFeed] = .ok amid ∧ Placed (collation "b-c-") amid ∧
      (collation "bc").icuRules [lineFeed] = .ok ahead ∧ Placed (collation "bc") ahead := by
  intro collation Placed amid ahead
  have last : Setting.lastTop?
      [("variableTop", "u0061"), ("strength", "primary"), ("variableTop", "u002D")] =
        some ("u002D" : Text) := rfl
  have contributions : Setting.readAll
      [("variableTop", "u0061"), ("strength", "primary"), ("variableTop", "u002D")] =
        .ok [.variableTop "a", .directive "strength" "1", .variableTop "'-'"] := rfl
  have placed : ∀ sequence output, (collation sequence).icuRules [lineFeed] = .ok output →
      Placed (collation sequence) output := by
    intro sequence output written
    obtain ⟨top, settings, clauses, reset, body, decoded, said, emitted, placed, shape, others⟩ :=
      icuRules_places_variableTop rfl last written
    cases (Setting.readAll_eq_ok_iff.mpr said).symm.trans contributions
    exact ⟨top, clauses, reset, body, decoded, emitted, placed, shape, others⟩
  have writtenAmid : (collation "b-c-").icuRules [lineFeed] = .ok amid := by
    decide +kernel
  have writtenAhead : (collation "bc").icuRules [lineFeed] = .ok ahead := by
    decide +kernel
  exact ⟨writtenAmid, placed _ _ writtenAmid, writtenAhead, placed _ _ writtenAhead⟩

end Collation

end Tailoring

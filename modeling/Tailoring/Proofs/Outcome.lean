import Mathlib.Data.List.Forall2

/-!
# Outcomes

Computations that may fail, taken apart. A sequence of computations succeeds
exactly if each of them does, and otherwise fails like the first that does not.
-/

set_option autoImplicit false

namespace Tailoring.Outcome

variable {Error Value Result : Type}

theorem bind_eq_ok_iff {source : Except Error Value}
    {continuation : Value → Except Error Result} {result : Result} :
    source >>= continuation = .ok result ↔
      ∃ value, source = .ok value ∧ continuation value = .ok result := by
  cases source with
  | error error => simp [bind, Except.bind]
  | ok value => simp [bind, Except.bind]

theorem bind_eq_error_iff {source : Except Error Value}
    {continuation : Value → Except Error Result} {error : Error} :
    source >>= continuation = .error error ↔
      source = .error error ∨ ∃ value, source = .ok value ∧ continuation value = .error error := by
  cases source with
  | error error => simp [bind, Except.bind]
  | ok value => simp [bind, Except.bind]

theorem map_eq_error_iff {source : Except Error Value} {function : Value → Result}
    {error : Error} : source.map function = .error error ↔ source = .error error := by
  cases source with
  | error error => simp [Except.map]
  | ok value => simp [Except.map]

theorem map_eq_ok_iff {source : Except Error Value} {function : Value → Result}
    {result : Result} :
    source.map function = .ok result ↔
      ∃ value, source = .ok value ∧ function value = result := by
  cases source with
  | error error => simp [Except.map]
  | ok value => simp [Except.map]

theorem pure_eq_ok_iff {value result : Value} :
    (pure value : Except Error Value) = .ok result ↔ value = result := by
  simp [pure, Except.pure]

theorem exists_ok_of_not_error {source : Except Error Value}
    (never : ∀ error, source ≠ .error error) : ∃ value, source = .ok value := by
  cases source with
  | error error => exact absurd rfl (never error)
  | ok value => exact ⟨value, rfl⟩

theorem bind_pure_eq_map (source : Except Error Value) (function : Value → Result) :
    (source >>= fun value => pure (function value)) = source.map function := by
  cases source with
  | error error => rfl
  | ok value => rfl

/-- What a sequence of computations gives, if what one gives is told by the results
of its parts. -/
theorem mapM_gives_iff {Computation : Type → Type} [Monad Computation] [LawfulMonad Computation]
    (Gives : ∀ {Value : Type}, Computation Value → Value → Prop)
    (gives_pure : ∀ {Value : Type} {value result : Value},
      Gives (pure value) result ↔ value = result)
    (gives_bind : ∀ {Value Result : Type} {source : Computation Value}
      {continuation : Value → Computation Result} {result : Result},
      Gives (source >>= continuation) result ↔
        ∃ value, Gives source value ∧ Gives (continuation value) result)
    {function : Value → Computation Result} {values : List Value} {results : List Result} :
    Gives (values.mapM function) results ↔
      List.Forall₂ (fun value result => Gives (function value) result) values results := by
  induction values generalizing results with
  | nil => rw [List.mapM_nil, gives_pure, List.forall₂_nil_left_iff, eq_comm]
  | cons value values ih =>
      simp only [List.mapM_cons, gives_bind, gives_pure, ih, List.forall₂_cons_left_iff]
      constructor
      · rintro ⟨result, first, rest, remaining, rfl⟩
        exact ⟨result, rest, first, remaining, rfl⟩
      · rintro ⟨result, rest, first, remaining, rfl⟩
        exact ⟨result, first, rest, remaining, rfl⟩

theorem mapM_eq_ok_iff {function : Value → Except Error Result} {values : List Value}
    {results : List Result} :
    values.mapM function = .ok results ↔
      List.Forall₂ (fun value result => function value = .ok result) values results :=
  mapM_gives_iff (fun outcome value => outcome = Except.ok value) pure_eq_ok_iff bind_eq_ok_iff

theorem mapM_eq_some_iff {function : Value → Option Result} {values : List Value}
    {results : List Result} :
    values.mapM function = some results ↔
      List.Forall₂ (fun value result => function value = some result) values results :=
  mapM_gives_iff (fun outcome value => outcome = some value) Option.some_inj
    Option.bind_eq_some_iff

theorem exists_mapM {function : Value → Option Result} {values : List Value}
    (each : ∀ value ∈ values, ∃ result, function value = some result) :
    ∃ results, values.mapM function = some results := by
  induction values with
  | nil => exact ⟨[], rfl⟩
  | cons value values ih =>
      obtain ⟨result, first⟩ := each value (by simp)
      obtain ⟨results, remaining⟩ := ih fun later member => each later (.tail _ member)
      exact ⟨result :: results, mapM_eq_some_iff.mpr (.cons first (mapM_eq_some_iff.mp remaining))⟩

theorem exists_error_of_mapM {function : Value → Except Error Result} {values : List Value}
    {error : Error} (failed : values.mapM function = .error error) :
    ∃ value ∈ values, function value = .error error := by
  induction values with
  | nil => cases failed
  | cons value values ih =>
      rw [List.mapM_cons, bind_eq_error_iff] at failed
      rcases failed with here | ⟨result, succeeded, failed⟩
      · exact ⟨value, .head _, here⟩
      · rw [bind_eq_error_iff] at failed
        rcases failed with later | ⟨results, _, impossible⟩
        · obtain ⟨culprit, listed, fails⟩ := ih later
          exact ⟨culprit, .tail _ listed, fails⟩
        · cases impossible

theorem exists_related {Related : Value → Result → Prop} {values : List Value}
    {results : List Result} (related : List.Forall₂ Related values results) {result : Result}
    (member : result ∈ results) : ∃ value ∈ values, Related value result := by
  induction related with
  | nil => cases member
  | cons first _ ih =>
      rcases List.mem_cons.mp member with rfl | member
      · exact ⟨_, .head _, first⟩
      · obtain ⟨value, listed, related⟩ := ih member
        exact ⟨value, .tail _ listed, related⟩

theorem exists_related_of_mem {Related : Value → Result → Prop} {values : List Value}
    {results : List Result} (related : List.Forall₂ Related values results) {value : Value}
    (member : value ∈ values) : ∃ result ∈ results, Related value result :=
  exists_related related.flip member

/-! ## The first error -/

/-- What a computation makes of the errors that it can meet, in the order in which
it meets them: it fails with the first, or succeeds if there are none. -/
inductive Reports : List Error → Except Error Value → Prop where
  | success {value} : Reports [] (.ok value)
  | failure {error later} : Reports (error :: later) (.error error)

namespace Reports

theorem eq_error_iff {errors : List Error} {outcome : Except Error Value} {error : Error}
    (reports : Reports errors outcome) :
    outcome = .error error ↔ errors.head? = some error := by
  cases reports with
  | success => simp
  | failure => simp

theorem exists_error_iff {errors : List Error} {outcome : Except Error Value}
    (reports : Reports errors outcome) :
    (∃ error, outcome = .error error) ↔ errors ≠ [] := by
  cases reports with
  | success => simp
  | failure => simp

theorem exists_ok_iff {errors : List Error} {outcome : Except Error Value}
    (reports : Reports errors outcome) : (∃ value, outcome = .ok value) ↔ errors = [] := by
  cases reports with
  | success => simp
  | failure => simp

theorem nil_of_ok {errors : List Error} {value : Value}
    (reports : Reports errors (.ok value)) : errors = [] := by
  cases reports
  rfl

theorem bind {errors later : List Error} {source : Except Error Value}
    {continuation : Value → Except Error Result} (reports : Reports errors source)
    (next : ∀ value, Reports later (continuation value)) :
    Reports (errors ++ later) (source >>= continuation) := by
  cases reports with
  | success => exact next _
  | failure => exact .failure

/-- What cannot fail adds no error. -/
theorem bind_success {errors : List Error} {source : Except Error Value}
    {continuation : Value → Except Error Result} (reports : Reports errors source)
    (succeeds : ∀ value, Reports [] (continuation value)) :
    Reports errors (source >>= continuation) := by
  rw [← List.append_nil errors]
  exact reports.bind succeeds

theorem map {errors : List Error} {source : Except Error Value} (reports : Reports errors source)
    (function : Value → Result) : Reports errors (source.map function) := by
  cases reports with
  | success => exact .success
  | failure => exact .failure

theorem mapM {errors : Value → List Error} {function : Value → Except Error Result}
    {values : List Value} (reports : ∀ value ∈ values, Reports (errors value) (function value)) :
    Reports (values.flatMap errors) (values.mapM function) := by
  induction values with
  | nil => exact .success
  | cons value values ih =>
      rw [List.mapM_cons, List.flatMap_cons]
      refine (reports value (by simp)).bind fun result => ?_
      have rest := ih fun later member => reports later (.tail _ member)
      exact rest.bind_success fun results => .success

theorem foldlM {errors : Value → List Error} {step : Result → Value → Except Error Result}
    (reports : ∀ result value, Reports (errors value) (step result value)) (values : List Value)
    (start : Result) : Reports (values.flatMap errors) (values.foldlM step start) := by
  induction values generalizing start with
  | nil => exact .success
  | cons value values ih =>
      rw [List.foldlM_cons, List.flatMap_cons]
      exact (reports start value).bind ih

end Reports

end Tailoring.Outcome

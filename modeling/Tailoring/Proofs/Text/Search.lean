import Mathlib.Data.List.Basic
import Mathlib.Data.List.TakeWhile
import Tailoring.Text.Search

/-!
# Occurrences in text and pieces of it

Where a text occurs last in a text whose end is known: at the start of that end,
if the rest of it cannot hold another occurrence, or before it altogether.

Cutting a text at every occurrence of a separator gives the stretches between them.
-/

set_option autoImplicit false

namespace Tailoring.Text

theorem lastIndexOf?_append {needle t : Text} {index : Nat}
    (found : lastIndexOf? needle t = some index) (front : Text) :
    lastIndexOf? needle (front ++ t) = some (front.length + index) := by
  induction front with
  | nil => simpa using found
  | cons c front ih =>
      rw [List.cons_append, lastIndexOf?, ih, List.length_cons]
      exact congrArg some (by omega)

theorem exists_lastIndexOf? (needle back : Text) :
    ∃ index, lastIndexOf? needle (needle ++ back) = some index := by
  cases whole : needle ++ back with
  | nil => exact ⟨0, by rw [lastIndexOf?, if_pos (List.append_eq_nil_iff.mp whole).1]⟩
  | cons c rest =>
      have starts : needle.isPrefixOf (c :: rest) = true :=
        List.isPrefixOf_iff_prefix.mpr ⟨back, whole⟩
      rw [lastIndexOf?]
      split
      · exact ⟨_, rfl⟩
      · exact ⟨0, if_pos starts⟩

theorem lastIndexOf?_of_absent {c : CodePoint} {t : Text} (needle : Text) (absent : c ∉ t) :
    lastIndexOf? (c :: needle) t = none := by
  induction t with
  | nil => rfl
  | cons d t ih =>
      have differ : c ≠ d := List.ne_of_not_mem_cons absent
      rw [lastIndexOf?, ih (List.not_mem_of_not_mem_cons absent)]
      simp [differ]

theorem lastIndexOf?_at_end {c : CodePoint} {needle t : Text} (absent : c ∉ needle ++ t)
    (front : Text) :
    lastIndexOf? (c :: needle) (front ++ (c :: needle) ++ t) = some front.length := by
  have here : lastIndexOf? (c :: needle) (c :: (needle ++ t)) = some 0 := by
    rw [lastIndexOf?, lastIndexOf?_of_absent needle absent]
    simp
  rw [List.append_assoc]
  exact lastIndexOf?_append here front

/-- A text that shares nothing with the end of another lies before that end. -/
theorem lastIndexOf?_before_end {needle front t : Text} {index : Nat} (present : needle ≠ [])
    (apart : ∀ c ∈ needle, c ∉ t) (found : lastIndexOf? needle (front ++ t) = some index) :
    index + needle.length ≤ front.length := by
  obtain ⟨c, more, rfl⟩ := List.exists_cons_of_ne_nil present
  induction front generalizing index with
  | nil =>
      rw [List.nil_append, lastIndexOf?_of_absent more (apart c (by simp))] at found
      cases found
  | cons d front ih =>
      rw [List.cons_append, lastIndexOf?] at found
      split at found
      · next earlier foundLater =>
          cases found
          have bounded := ih foundLater
          simp only [List.length_cons] at bounded ⊢
          omega
      · split at found
        · next starts =>
            cases found
            rw [List.isPrefixOf_iff_prefix, ← List.cons_append] at starts
            rcases List.prefix_or_prefix_of_prefix starts (List.prefix_append (d :: front) t) with
              within | beyond
            · simpa using within.length_le
            · obtain ⟨overlap, split⟩ := beyond
              have inside : overlap <+: t := by
                rw [← split] at starts
                exact (List.prefix_append_right_inj _).mp starts
              cases overlap with
              | nil => rw [← split]; simp
              | cons e overlap =>
                  have shared : e ∈ t := inside.subset (by simp)
                  exact absurd shared (apart e (by rw [← split]; simp))
        · cases found

/-! ## Pieces -/

theorem cutAt?_append {c : CodePoint} {front : Text} (absent : c ∉ front) (back : Text) :
    cutAt? c (front ++ c :: back) = some (front, back) := by
  have before : ∀ d ∈ front, (d != c) = true := by
    intro d member
    simpa using ne_of_mem_of_not_mem member absent
  simp only [cutAt?, List.dropWhile_append_of_pos before, List.takeWhile_append_of_pos before]
  simp

theorem cutAt?_of_not_mem {c : CodePoint} {t : Text} (absent : c ∉ t) : cutAt? c t = none := by
  have nothing : t.dropWhile (· != c) = [] := by
    rw [List.dropWhile_eq_nil_iff]
    intro d member
    simpa using ne_of_mem_of_not_mem member absent
  simp [cutAt?, nothing]

theorem splitOn_eq (separator : CodePoint) (t : Text) :
    splitOn separator t = List.splitOn separator t := by
  induction t with
  | nil => rfl
  | cons c t ih =>
      rw [splitOn, ih, List.splitOn_cons_eq_if_modifyHead]
      by_cases here : c = separator
      · simp [here]
      · simp only [here, if_false, beq_iff_eq]
        -- the branch without pieces is never taken
        cases pieces : List.splitOn separator t with
        | nil => exact absurd pieces (List.splitOn_ne_nil separator t)
        | cons piece pieces => rfl

/-- A stretch without the separator, from a separator or the start of the text to a
separator or its end. -/
def IsPiece (separator : CodePoint) (piece t : Text) : Prop :=
  ∃ front back, t = front ++ piece ++ back ∧ separator ∉ piece ∧
    (front = [] ∨ front.getLast? = some separator) ∧ (back = [] ∨ back.head? = some separator)

theorem mem_splitOn_of_starts {separator : CodePoint} {piece back : Text}
    (free : separator ∉ piece) (bounded : back = [] ∨ back.head? = some separator) :
    piece ∈ splitOn separator (piece ++ back) := by
  rw [splitOn_eq]
  rcases bounded with rfl | bounded
  · rw [List.append_nil, List.splitOn_eq_singleton free]
    exact List.mem_singleton.mpr rfl
  · obtain ⟨rest, rfl⟩ := List.head?_eq_some_iff.mp bounded
    rw [List.splitOn_append_cons_self_of_not_mem free]
    exact List.mem_cons_self

theorem IsPiece.append_separator {separator : CodePoint} {piece t : Text}
    (valid : IsPiece separator piece t) (start : Text) :
    IsPiece separator piece (start ++ separator :: t) := by
  obtain ⟨front, back, rfl, free, starts, bounded⟩ := valid
  refine ⟨start ++ separator :: front, back, by simp, free, .inr ?_, bounded⟩
  rcases starts with rfl | starts
  · simp
  · obtain ⟨before, rfl⟩ := List.getLast?_eq_some_iff.mp starts
    simp [List.getLast?_append, List.getLast?_cons]

theorem isPiece_of_mem_splitOn {separator : CodePoint} {piece t : Text}
    (member : piece ∈ splitOn separator t) : IsPiece separator piece t := by
  -- on the length of the text, which shrinks as it is cut at the first separator
  induction measured : t.length using Nat.strongRecOn generalizing t with
  | ind size ih =>
      rw [splitOn_eq] at member
      by_cases occurs : separator ∈ t
      · obtain ⟨start, rest, rfl, free⟩ := List.eq_append_cons_of_mem occurs
        rw [List.splitOn_append_cons_self_of_not_mem free, List.mem_cons, ← splitOn_eq] at member
        rcases member with rfl | later
        · exact ⟨[], separator :: rest, rfl, free, .inl rfl, .inr rfl⟩
        · have shorter : rest.length < size := by
            rw [← measured, List.length_append, List.length_cons]
            omega
          exact (ih rest.length shorter later rfl).append_separator start
      · rw [List.splitOn_eq_singleton occurs, List.mem_singleton] at member
        exact ⟨[], [], by simp [member], member ▸ occurs, .inl rfl, .inl rfl⟩

theorem mem_splitOn_iff {separator : CodePoint} {piece t : Text} :
    piece ∈ splitOn separator t ↔ IsPiece separator piece t := by
  refine ⟨isPiece_of_mem_splitOn, ?_⟩
  rintro ⟨front, back, rfl, free, starts, bounded⟩
  have here := mem_splitOn_of_starts free bounded
  rcases starts with rfl | starts
  · exact here
  · obtain ⟨before, rfl⟩ := List.getLast?_eq_some_iff.mp starts
    rw [splitOn_eq] at here ⊢
    have cut : before ++ [separator] ++ piece ++ back = before ++ separator :: (piece ++ back) := by
      simp
    rw [cut, List.splitOn_append_cons_self]
    exact List.mem_append_right _ here

end Tailoring.Text

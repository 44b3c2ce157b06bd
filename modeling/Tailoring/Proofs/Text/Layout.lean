import Mathlib.Data.List.Basic
import Tailoring.Text.Blank

/-!
# Texts put together from pieces

Line breaks, ends that trimming leaves alone, and how a text that was put
together from pieces is taken apart again.
-/

set_option autoImplicit false

namespace Tailoring

/-- The line breaks that rules are written with. -/
def LineBreak (newline : Text) : Prop :=
  newline = "\n" ∨ newline = "\r\n"

theorem LineBreak.append_ne_space {newline : Text} (lineBreak : LineBreak newline) (x y : Text) :
    newline ++ x ≠ " " ++ y := by
  intro same
  rcases lineBreak with rfl | rfl <;> exact absurd (List.cons.inj same).1 (by decide)

theorem LineBreak.blank {newline : Text} (lineBreak : LineBreak newline) :
    ∀ c ∈ newline, c.isBlank = true := by
  have all : newline.all CodePoint.isBlank = true := by
    rcases lineBreak with rfl | rfl <;> decide
  simpa using all

theorem LineBreak.eq_cons {newline : Text} (lineBreak : LineBreak newline) :
    ∃ c more, newline = c :: more ∧ c ∉ more := by
  rcases lineBreak with rfl | rfl
  · exact ⟨_, _, rfl, by decide⟩
  · exact ⟨_, _, rfl, by decide⟩

/-- The text ends, and not in a blank. -/
def EndsSolid (t : Text) : Prop :=
  ∃ c, t.getLast? = some c ∧ c.isBlank = false

theorem EndsSolid.append {t : Text} (solid : EndsSolid t) (front : Text) :
    EndsSolid (front ++ t) := by
  obtain ⟨c, last, notBlank⟩ := solid
  exact ⟨c, by rw [List.getLast?_append, last]; rfl, notBlank⟩

theorem EndsSolid.flatMap {Piece : Type} {write : Piece → Text} {pieces : List Piece}
    (solid : ∀ piece ∈ pieces, EndsSolid (write piece)) (present : pieces ≠ []) :
    EndsSolid (pieces.flatMap write) := by
  obtain ⟨front, piece, rfl⟩ := (List.eq_nil_or_concat pieces).resolve_left present
  simp only [List.concat_eq_append, List.flatMap_append, List.flatMap_singleton]
  exact (solid piece (by simp)).append _

namespace Text

theorem trimEnd_of_solid {t : Text} (solid : ∀ c ∈ t.getLast?, c.isBlank = false) :
    trimEnd t = t := by
  rcases List.eq_nil_or_concat t with rfl | ⟨front, c, rfl⟩
  · rfl
  · have last := solid c (by simp)
    simp [trimEnd, last]

theorem trim_append_of_solid {blanks t : Text} (blank : ∀ c ∈ blanks, c.isBlank = true)
    (starts : ∀ c ∈ t.head?, c.isBlank = false) (ends : ∀ c ∈ t.getLast?, c.isBlank = false) :
    trim (blanks ++ t) = t := by
  have kept : t.dropWhile CodePoint.isBlank = t := by
    cases t with
    | nil => rfl
    | cons c rest => simp [starts c rfl]
  rw [trim, trimStart, List.dropWhile_append_of_pos blank, kept, trimEnd_of_solid ends]

/-- What is left of a text without its blanks. -/
def solid (t : Text) : Text :=
  t.filter fun c => !c.isBlank

theorem solid_append (front back : Text) : solid (front ++ back) = solid front ++ solid back :=
  List.filter_append front back

theorem solid_trimStart (t : Text) : solid (trimStart t) = solid t := by
  unfold solid trimStart
  induction t with
  | nil => rfl
  | cons c rest ih =>
      cases blank : c.isBlank with
      | true => simpa [blank] using ih
      | false => simp [blank]

theorem solid_reverse (t : Text) : solid t.reverse = (solid t).reverse :=
  List.filter_reverse

theorem solid_trimEnd (t : Text) : solid (trimEnd t) = solid t := by
  rw [trimEnd, solid_reverse, ← trimStart, solid_trimStart, solid_reverse, List.reverse_reverse]

theorem solid_trim (t : Text) : solid (trim t) = solid t := by
  rw [trim, solid_trimEnd, solid_trimStart]

theorem append_cons_cancel {c : CodePoint} {front front' x y : Text} (absent : c ∉ front)
    (absent' : c ∉ front') (same : front ++ c :: x = front' ++ c :: y) :
    front = front' ∧ x = y := by
  induction front generalizing front' with
  | nil =>
      cases front' with
      | nil => simpa using same
      | cons d rest =>
          obtain rfl : c = d := (List.cons.inj same).1
          exact absurd (by simp) absent'
  | cons d front ih =>
      cases front' with
      | nil =>
          obtain rfl : d = c := (List.cons.inj same).1
          exact absurd (by simp) absent
      | cons e front' =>
          obtain ⟨rfl, tails⟩ := List.cons.inj same
          obtain ⟨rfl, rest⟩ := ih (fun member => absent (.tail _ member))
            (fun member => absent' (.tail _ member)) tails
          exact ⟨rfl, rest⟩

/-- Pieces that can be told from what follows them can all be told apart. -/
theorem flatMap_injective_of_cancel {Piece : Type} {Valid : Piece → Prop} {write : Piece → Text}
    (present : ∀ piece, write piece ≠ [])
    (cancel : ∀ {piece piece' : Piece} {pieces pieces' : List Piece}, Valid piece →
      Valid piece' → write piece ++ pieces.flatMap write = write piece' ++ pieces'.flatMap write →
      piece = piece' ∧ pieces.flatMap write = pieces'.flatMap write)
    {pieces pieces' : List Piece} (valid : ∀ piece ∈ pieces, Valid piece)
    (valid' : ∀ piece ∈ pieces', Valid piece)
    (same : pieces.flatMap write = pieces'.flatMap write) : pieces = pieces' := by
  induction pieces generalizing pieces' with
  | nil =>
      cases pieces' with
      | nil => rfl
      | cons piece' pieces' =>
          rw [List.flatMap_nil, List.flatMap_cons, eq_comm, List.append_eq_nil_iff] at same
          exact absurd same.1 (present piece')
  | cons piece pieces ih =>
      cases pieces' with
      | nil =>
          rw [List.flatMap_nil, List.flatMap_cons, List.append_eq_nil_iff] at same
          exact absurd same.1 (present piece)
      | cons piece' pieces' =>
          rw [List.flatMap_cons, List.flatMap_cons] at same
          obtain ⟨rfl, rest⟩ := cancel (valid piece (by simp)) (valid' piece' (by simp)) same
          rw [ih (fun later member => valid later (.tail _ member))
            (fun later member => valid' later (.tail _ member)) rest]

end Text

end Tailoring

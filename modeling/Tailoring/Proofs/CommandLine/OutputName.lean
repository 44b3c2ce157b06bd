import Mathlib.Data.List.Nodup
import Mathlib.Data.List.Perm.Subperm
import Tailoring.CommandLine.OutputName

/-!
# Free names for output files

Different numbers make different names, and more numbers are tried than there are
names in use. So the name that is chosen is always free, and if it has a number, the
names with smaller ones are in use.
-/

set_option autoImplicit false

namespace Tailoring

theorem CodePoint.ofChar_injective : Function.Injective CodePoint.ofChar := by
  intro c d same
  have numbers : c.toNat = d.toNat := congrArg (fun point : CodePoint => point.val) same
  exact Char.toNat_inj.mp numbers

theorem Text.ofNat_injective : Function.Injective Text.ofNat := by
  intro m n same
  have digits : Nat.toDigits 10 m = Nat.toDigits 10 n :=
    List.map_injective_iff.mpr CodePoint.ofChar_injective same
  calc
    m = Nat.ofDigitChars 10 (Nat.toDigits 10 m) 0 := Nat.ofDigitChars_ten_toDigits.symm
    _ = Nat.ofDigitChars 10 (Nat.toDigits 10 n) 0 := by rw [digits]
    _ = n := Nat.ofDigitChars_ten_toDigits

namespace CommandLine.OutputName

theorem numbered_injective (stem suffix : Text) : Function.Injective (numbered stem suffix) := by
  intro m n same
  simp only [numbered, List.append_cancel_right_eq, List.append_cancel_left_eq] at same
  exact Text.ofNat_injective same

theorem isTaken_iff {existing : List Text} {name : Text}
    (named : name ≠ [] ∧ name ≠ "." ∧ name ≠ "..") :
    isTaken existing name = true ↔ name ∈ existing := by
  simp [isTaken, Path.isName, named]

/-- The hyphen before the number keeps the name from standing for a directory. -/
theorem isTaken_numbered {existing : List Text} {stem suffix : Text} {number : Nat} :
    isTaken existing (numbered stem suffix number) = true ↔
      numbered stem suffix number ∈ existing := by
  have hyphen : ('-' : CodePoint) ∈ numbered stem suffix number := by
    have written : ('-' : CodePoint) ∈ ("-" : Text) := by decide
    simp [numbered, written]
  have other : ∀ {name : Text}, ('-' : CodePoint) ∉ name →
      numbered stem suffix number ≠ name := by
    intro name absent same
    exact absent (same ▸ hyphen)
  exact isTaken_iff ⟨other (by decide), other (by decide), other (by decide)⟩

theorem exists_free_number (existing : List Text) (stem suffix : Text) :
    ∃ number ∈ List.range' 2 (existing.length + 1), numbered stem suffix number ∉ existing := by
  by_contra allTaken
  push Not at allTaken
  have taken : (List.range' 2 (existing.length + 1)).map (numbered stem suffix) ⊆ existing := by
    intro name member
    obtain ⟨number, tried, rfl⟩ := List.mem_map.mp member
    exact allTaken number tried
  have distinct : ((List.range' 2 (existing.length + 1)).map (numbered stem suffix)).Nodup :=
    List.Nodup.map (numbered_injective stem suffix) List.nodup_range'
  have bounded := (distinct.subperm taken).length_le
  rw [List.length_map, List.length_range'] at bounded
  omega

theorem find?_eq_freeNumber (existing : List Text) (stem suffix : Text) :
    ((List.range' 2 (existing.length + 1)).find? fun number =>
        !isTaken existing (numbered stem suffix number)) =
      some (freeNumber existing stem suffix) := by
  obtain ⟨number, tried, free⟩ := exists_free_number existing stem suffix
  have untaken : (!isTaken existing (numbered stem suffix number)) = true := by
    simpa using mt isTaken_numbered.mp free
  cases found : (List.range' 2 (existing.length + 1)).find? fun number =>
      !isTaken existing (numbered stem suffix number) with
  | none => exact absurd untaken (List.find?_eq_none.mp found number tried)
  | some least => simp only [freeNumber, found, Option.getD_some]

theorem numbered_freeNumber_not_mem (existing : List Text) (stem suffix : Text) :
    numbered stem suffix (freeNumber existing stem suffix) ∉ existing := by
  have suited := List.find?_some (find?_eq_freeNumber existing stem suffix)
  intro member
  rw [isTaken_numbered.mpr member] at suited
  cases suited

theorem two_le_freeNumber (existing : List Text) (stem suffix : Text) :
    2 ≤ freeNumber existing stem suffix := by
  have tried := List.mem_of_find?_eq_some (find?_eq_freeNumber existing stem suffix)
  exact (List.mem_range'_1.mp tried).1

theorem numbered_mem_of_lt_freeNumber {existing : List Text} {stem suffix : Text} {number : Nat}
    (tried : 2 ≤ number) (smaller : number < freeNumber existing stem suffix) :
    numbered stem suffix number ∈ existing := by
  have passed := (List.find?_range'_eq_some.mp (find?_eq_freeNumber existing stem suffix)).2.2
  exact isTaken_numbered.mp (by simpa using passed number tried smaller)

theorem isTaken_eq_false_iff {existing : List Text} {name : Text} :
    isTaken existing name = false ↔ Path.isName name = true ∧ name ∉ existing := by
  simp [isTaken]

theorem isTaken_choose (existing : List Text) (stem suffix : Text) :
    isTaken existing (choose existing stem suffix) = false := by
  unfold choose
  split
  · rw [← Bool.not_eq_true, isTaken_numbered]
    exact numbered_freeNumber_not_mem existing stem suffix
  · next untaken => simpa using untaken

theorem isName_choose (existing : List Text) (stem suffix : Text) :
    Path.isName (choose existing stem suffix) = true :=
  (isTaken_eq_false_iff.mp (isTaken_choose existing stem suffix)).1

theorem choose_not_mem (existing : List Text) (stem suffix : Text) :
    choose existing stem suffix ∉ existing :=
  (isTaken_eq_false_iff.mp (isTaken_choose existing stem suffix)).2

end CommandLine.OutputName

end Tailoring

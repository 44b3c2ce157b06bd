import Mathlib.Algebra.Group.Nat.Defs
import Mathlib.Data.List.Induction
import Tailoring.Text.Hex

/-!
# Hexadecimal spellings

A number is spelled by its digits, with any number of zeros in front and letters of
either case. Digits alone are read as the number that they spell, and nothing else
is read but such a spelling with a line feed behind it.
-/

set_option autoImplicit false

namespace Tailoring

namespace CodePoint

theorem val_toSmall (c : CodePoint) :
    c.toSmall.val = if 0x41 ≤ c.val ∧ c.val ≤ 0x5A then c.val + 0x20 else c.val := by
  unfold toSmall
  split
  · next capital =>
      rw [Fin.val_add]
      have small : c.val + 0x20 < 0x110000 := by omega
      exact Nat.mod_eq_of_lt small
  · rfl

theorem val_ofChar_digitChar {digit : Nat} (small : digit < 16) :
    (ofChar digit.digitChar).val = if digit < 10 then 0x30 + digit else 0x57 + digit := by
  revert digit
  decide

/-- A digit stands for a value if, made small, it is how the value is written. -/
theorem hexValue?_eq_some_iff {c : CodePoint} {digit : Nat} :
    c.hexValue? = some digit ↔ digit < 16 ∧ c.toSmall = ofChar digit.digitChar := by
  have written : digit < 16 →
      (c.toSmall = ofChar digit.digitChar ↔ c.toSmall.val = (ofChar digit.digitChar).val) :=
    fun _ => Fin.ext_iff
  unfold hexValue?
  constructor
  · intro read
    have small : digit < 16 := by grind
    rw [written small, val_toSmall, val_ofChar_digitChar small]
    grind
  · rintro ⟨small, same⟩
    rw [written small, val_toSmall, val_ofChar_digitChar small] at same
    grind

end CodePoint

namespace Hex

/-- The digits of the number, with zeros in front, in any mix of letter cases. -/
def Spells (t : Text) (n : Nat) : Prop :=
  ∃ width, t.map CodePoint.toSmall = padded width n

theorem spells_iff_zeros {t : Text} {n : Nat} :
    Spells t n ↔ ∃ zeros, t.map CodePoint.toSmall =
      List.replicate zeros ('0' : CodePoint) ++ (Nat.toDigits 16 n).map CodePoint.ofChar := by
  constructor
  · rintro ⟨width, spelled⟩
    exact ⟨_, spelled⟩
  · rintro ⟨zeros, spelled⟩
    refine ⟨zeros + ((Nat.toDigits 16 n).map CodePoint.ofChar).length, ?_⟩
    rw [spelled, padded, Nat.add_sub_cancel]

/-! ## Digits alone -/

theorem value?_concat (t : Text) (c : CodePoint) :
    value? (t ++ [c]) = (value? t).bind fun n => c.hexValue?.map (16 * n + ·) := by
  rw [value?, List.foldlM_append]
  simp [value?]

theorem value?_concat_eq_some_iff {t : Text} {c : CodePoint} {n : Nat} :
    value? (t ++ [c]) = some n ↔
      ∃ front digit, value? t = some front ∧ c.hexValue? = some digit ∧ 16 * front + digit = n := by
  simp [value?_concat, Option.bind_eq_some_iff]

theorem value?_map_toSmall (t : Text) : value? (t.map CodePoint.toSmall) = value? t := by
  have toSmall_toSmall : ∀ c : CodePoint, c.toSmall.toSmall = c.toSmall := by
    intro c
    apply Fin.ext
    simp only [CodePoint.val_toSmall]
    grind
  have same : ∀ c : CodePoint, c.toSmall.hexValue? = c.hexValue? := by
    intro c
    refine Option.ext fun digit => ?_
    rw [CodePoint.hexValue?_eq_some_iff, CodePoint.hexValue?_eq_some_iff, toSmall_toSmall]
  induction t using List.reverseRecOn with
  | nil => rfl
  | append_singleton t c ih =>
      rw [List.map_append, List.map_singleton, value?_concat, value?_concat, ih, same]

theorem value?_zeros_append (zeros : Nat) (t : Text) :
    value? (List.replicate zeros ('0' : CodePoint) ++ t) = value? t := by
  induction zeros with
  | zero => rfl
  | succ zeros ih => exact ih

theorem hexValue?_digitChar {digit : Nat} (small : digit < 16) :
    (CodePoint.ofChar digit.digitChar).hexValue? = some digit := by
  revert digit
  decide

theorem value?_toDigits (n : Nat) :
    value? ((Nat.toDigits 16 n).map CodePoint.ofChar) = some n := by
  induction n using Nat.strongRecOn with
  | ind n ih =>
      by_cases single : n < 16
      · rw [Nat.toDigits_of_lt_base single, List.map_singleton, ← List.nil_append [_],
          value?_concat_eq_some_iff]
        exact ⟨0, n, rfl, hexValue?_digitChar single, by omega⟩
      · rw [Nat.toDigits_of_base_le (by omega) (by omega), List.map_append, List.map_singleton,
          value?_concat_eq_some_iff]
        exact ⟨n / 16, n % 16, ih (n / 16) (by omega), hexValue?_digitChar (by omega), by omega⟩

/-- One more digit after a spelling, or after nothing. The leading digit of zero is
a zero too, so that it joins the zeros in front. -/
theorem Spells.concat {t : Text} {c : CodePoint} {n digit : Nat}
    (spelled : t = [] ∧ n = 0 ∨ Spells t n) (read : c.hexValue? = some digit) :
    Spells (t ++ [c]) (16 * n + digit) := by
  obtain ⟨small, written⟩ := CodePoint.hexValue?_eq_some_iff.mp read
  simp only [spells_iff_zeros, List.map_append, List.map_singleton, written] at spelled ⊢
  have single : Nat.toDigits 16 digit = [digit.digitChar] := Nat.toDigits_of_lt_base small
  rcases spelled with ⟨rfl, rfl⟩ | ⟨zeros, spelled⟩
  · exact ⟨0, by simp [single]⟩
  · rw [spelled]
    by_cases zero : n = 0
    · subst zero
      refine ⟨zeros + 1, ?_⟩
      rw [Nat.mul_zero, Nat.zero_add, single, List.replicate_succ']
      rfl
    · refine ⟨zeros, ?_⟩
      rw [← Nat.toDigits_append_toDigits (by omega) (by omega) small, single]
      simp

theorem spells_iff_value? {t : Text} {n : Nat} : Spells t n ↔ t ≠ [] ∧ value? t = some n := by
  constructor
  · intro spelled
    obtain ⟨zeros, written⟩ := spells_iff_zeros.mp spelled
    constructor
    · rintro rfl
      simp at written
    · rw [← value?_map_toSmall, written, value?_zeros_append, value?_toDigits]
  · rintro ⟨present, read⟩
    induction t using List.reverseRecOn generalizing n with
    | nil => exact absurd rfl present
    | append_singleton t c ih =>
        obtain ⟨front, digit, frontRead, digitRead, rfl⟩ := value?_concat_eq_some_iff.mp read
        refine .concat ?_ digitRead
        by_cases empty : t = []
        · subst empty
          exact .inl ⟨rfl, (Option.some.inj frontRead).symm⟩
        · exact .inr (ih empty frontRead)

theorem isHexDigit_of_value? {t : Text} {n : Nat} (read : value? t = some n) {c : CodePoint}
    (member : c ∈ t) : c.isHexDigit = true := by
  induction t using List.reverseRecOn generalizing n with
  | nil => cases member
  | append_singleton t d ih =>
      obtain ⟨front, digit, frontRead, digitRead, -⟩ := value?_concat_eq_some_iff.mp read
      rcases List.mem_append.mp member with before | last
      · exact ih frontRead before
      · cases List.mem_singleton.mp last
        rw [CodePoint.isHexDigit, digitRead]
        rfl

/-- Digits are read however many there are, and their count bounds the number. -/
theorem exists_value?_lt {digits : Text} (hexadecimal : ∀ c ∈ digits, c.isHexDigit = true) :
    ∃ value, value? digits = some value ∧ value < 16 ^ digits.length := by
  induction digits using List.reverseRecOn with
  | nil => exact ⟨0, rfl, by simp⟩
  | append_singleton digits c ih =>
      obtain ⟨front, frontRead, bounded⟩ := ih fun d member => hexadecimal d (by simp [member])
      obtain ⟨digit, read⟩ := Option.isSome_iff_exists.mp (hexadecimal c (by simp))
      have small := (CodePoint.hexValue?_eq_some_iff.mp read).1
      have value := value?_concat_eq_some_iff.mpr ⟨front, digit, frontRead, read, rfl⟩
      refine ⟨16 * front + digit, value, ?_⟩
      rw [List.length_append, List.length_singleton, Nat.pow_succ]
      omega

/-! ## Reading -/

theorem read?_concat (t : Text) {c : CodePoint} (other : c ≠ lineFeed) :
    read? (t ++ [c]) = value? (t ++ [c]) := by
  simp [read?, other]

theorem read?_lineFeed (t : Text) :
    read? (t ++ [lineFeed]) = if t = [] then none else value? t := by
  simp [read?]

/-- What is read is a spelling, or a spelling and a line feed. -/
theorem read?_eq_some_iff {t : Text} {n : Nat} :
    read? t = some n ↔ Spells t n ∨ ∃ digits, t = digits ++ [lineFeed] ∧ Spells digits n := by
  simp only [spells_iff_value?]
  induction t using List.reverseRecOn with
  | nil => simp [read?]
  | append_singleton t c _ =>
      by_cases final : c = lineFeed
      · subst final
        have unread : value? (t ++ [lineFeed]) = none := by
          rw [value?_concat]
          cases value? t <;> rfl
        simp [read?_lineFeed, unread]
      · simp [read?_concat t final, final]

end Hex

end Tailoring

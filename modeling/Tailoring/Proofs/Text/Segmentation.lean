import Mathlib.Data.List.Chain
import Tailoring.Proofs.Text.Scalar

/-!
# The one way to read a text in units

A text can be cut into units in many ways if a surrogate pair may also be cut into
its halves. Where it may not, there is one way, and it gives the scalars of the
text. Their numbers are encoded in UTF-16 by the code units that the code points of
the text are encoded by.
-/

set_option autoImplicit false

namespace Tailoring

/-! ## Segmentations -/

namespace Text

/-- One code point, or a high surrogate with a low one after it. -/
def IsUnit (unit : Text) : Prop :=
  (∃ c, unit = [c]) ∨
    ∃ high low : CodePoint, high.isHighSurrogate = true ∧ low.isLowSurrogate = true ∧
      unit = [high, low]

/-- Two units that are the halves of a surrogate pair. -/
def Halves (unit next : Text) : Prop :=
  ∃ high low : CodePoint, high.isHighSurrogate = true ∧ low.isLowSurrogate = true ∧
    unit = [high] ∧ next = [low]

/-- Units that make up a text, with no surrogate pair cut into halves. -/
structure Segmentation (t : Text) (units : List Text) : Prop where
  flatten : units.flatten = t
  isUnit : ∀ unit ∈ units, IsUnit unit
  unhalved : units.IsChain fun unit next => ¬Halves unit next

theorem isUnit_iff {unit : Text} : IsUnit unit ↔ ∃ s : Scalar, s.WellFormed ∧ unit = s.text := by
  constructor
  · rintro (⟨c, rfl⟩ | ⟨high, low, isHigh, isLow, rfl⟩)
    · exact ⟨.single c, trivial, rfl⟩
    · exact ⟨.pair high low, ⟨isHigh, isLow⟩, rfl⟩
  · rintro ⟨c | ⟨high, low⟩, wellFormed, rfl⟩
    · exact .inl ⟨c, rfl⟩
    · exact .inr ⟨high, low, wellFormed.1, wellFormed.2, rfl⟩

/-- A unit that starts with a low surrogate is no more than that. -/
theorem IsUnit.eq_singleton {c : CodePoint} {rest : Text} (isUnit : IsUnit (c :: rest))
    (low : c.isLowSurrogate = true) : rest = [] := by
  rcases isUnit with ⟨d, same⟩ | ⟨d, e, high, -, same⟩
  · cases same
    rfl
  · cases same
    rw [CodePoint.not_isHighSurrogate_of_isLowSurrogate low] at high
    cases high

/-! ## Scalars are a segmentation -/

theorem flatten_scalars (t : Text) : ((scalars t).map Scalar.text).flatten = t := by
  rw [← List.flatMap_def, flatMap_text_scalars]

/-- The first unit starts where the text does. -/
theorem prefix_of_head_scalars {t unit : Text}
    (first : unit ∈ ((scalars t).map Scalar.text).head?) : unit <+: t := by
  obtain ⟨others, shape⟩ := List.head?_eq_some_iff.mp first
  have joined := flatten_scalars t
  rw [shape] at joined
  exact ⟨others.flatten, joined⟩

theorem isChain_scalars (t : Text) :
    ((scalars t).map Scalar.text).IsChain fun unit next => ¬Halves unit next := by
  fun_induction scalars t with
  | case1 => exact .nil
  | case2 c => exact .singleton _
  | case3 c d rest surrogates ih =>
      refine List.isChain_cons.mpr ⟨?_, ih⟩
      rintro next - ⟨high, low, -, -, same, -⟩
      cases same
  | case4 c d rest apart ih =>
      refine List.isChain_cons.mpr ⟨?_, ih⟩
      rintro next first ⟨high, low, isHigh, isLow, sameFirst, rfl⟩
      cases sameFirst
      obtain ⟨rfl, -⟩ := List.cons_prefix_cons.mp (prefix_of_head_scalars first)
      exact apart (by simp [isHigh, isLow])

theorem segmentation_scalars (t : Text) : Segmentation t ((scalars t).map Scalar.text) where
  flatten := flatten_scalars t
  isUnit := by
    intro unit member
    obtain ⟨s, scalar, rfl⟩ := List.mem_map.mp member
    exact isUnit_iff.mpr ⟨s, wellFormed_of_mem_scalars scalar, rfl⟩
  unhalved := isChain_scalars t

/-! ## There is no other -/

theorem Segmentation.exists_first {t : Text} {units : List Text} (segmented : Segmentation t units)
    {c : CodePoint} (first : c ∈ t.head?) : ∃ more others, units = (c :: more) :: others := by
  obtain ⟨rfl, isUnit, -⟩ := segmented
  cases units with
  | nil => cases first
  | cons unit others =>
      cases unit with
      | nil => simpa [IsUnit] using isUnit [] List.mem_cons_self
      | cons d more =>
          cases first
          exact ⟨more, others, rfl⟩

/-- Cutting off a unit cuts off a scalar, if the next unit is not the other half of it. -/
theorem scalars_append {s : Scalar} {rest : Text} {units : List Text} (wellFormed : s.WellFormed)
    (segmented : Segmentation rest units)
    (unhalved : ∀ next ∈ units.head?, ¬Halves s.text next) :
    scalars (s.text ++ rest) = s :: scalars rest := by
  cases s with
  | pair high low => exact scalars_pair rest wellFormed.1 wellFormed.2
  | single c =>
      by_cases isHigh : c.isHighSurrogate = true
      · apply scalars_cons_of_not_low
        intro d first
        by_contra isLow
        rw [Bool.not_eq_false] at isLow
        obtain ⟨more, others, rfl⟩ := segmented.exists_first first
        obtain rfl := (segmented.isUnit _ List.mem_cons_self).eq_singleton isLow
        exact unhalved [d] rfl ⟨c, d, isHigh, isLow, rfl, rfl⟩
      · exact scalars_cons_of_not_high rest (by simpa using isHigh)

theorem Segmentation.eq_scalars {t : Text} {units : List Text} (segmented : Segmentation t units) :
    units = (scalars t).map Scalar.text := by
  -- on the units: behind the first one the others are a segmentation of what is left
  induction units generalizing t with
  | nil =>
      obtain ⟨rfl, -, -⟩ := segmented
      rfl
  | cons unit units ih =>
      obtain ⟨rfl, isUnit, unhalved⟩ := segmented
      obtain ⟨s, wellFormed, rfl⟩ := isUnit_iff.mp (isUnit unit List.mem_cons_self)
      obtain ⟨first, later⟩ := List.isChain_cons.mp unhalved
      have rest : Segmentation units.flatten units :=
        ⟨rfl, fun next member => isUnit next (.tail _ member), later⟩
      rw [List.flatten_cons, scalars_append wellFormed rest first, List.map_cons, ← ih rest]

end Text

/-! ## UTF-16 -/

/-- The code units of a number: itself, or a surrogate pair if it is above U+FFFF. -/
def utf16 (n : Nat) : List Nat :=
  if n < 0x10000 then [n]
  else [0xD800 + (n - 0x10000) / 0x400, 0xDC00 + (n - 0x10000) % 0x400]

theorem utf16_of_lt {n : Nat} (small : n < 0x10000) : utf16 n = [n] :=
  if_pos small

theorem utf16_add (n : Nat) : utf16 (0x10000 + n) = [0xD800 + n / 0x400, 0xDC00 + n % 0x400] := by
  rw [utf16, if_neg (Nat.not_lt.mpr (Nat.le_add_right _ n)), Nat.add_sub_cancel_left]

theorem Scalar.codePoint_pair (high low : CodePoint) :
    (Scalar.pair high low).codePoint =
      0x10000 + (high.val - 0xD800) * 0x400 + (low.val - 0xDC00) := rfl

theorem utf16_codePoint {s : Scalar} (wellFormed : s.WellFormed) :
    utf16 s.codePoint = s.text.flatMap fun c => utf16 c.val := by
  cases s with
  | single c => exact (List.flatMap_singleton (fun c : CodePoint => utf16 c.val) c).symm
  | pair high low =>
      obtain ⟨isHigh, isLow⟩ := wellFormed
      simp only [CodePoint.isHighSurrogate, CodePoint.isLowSurrogate,
        decide_eq_true_eq] at isHigh isLow
      -- each half has ten bits of the number
      have upper : ((high.val - 0xD800) * 0x400 + (low.val - 0xDC00)) / 0x400 =
          high.val - 0xD800 := by
        omega
      have lower : ((high.val - 0xD800) * 0x400 + (low.val - 0xDC00)) % 0x400 =
          low.val - 0xDC00 := by
        omega
      calc
        utf16 (Scalar.pair high low).codePoint
          = [0xD800 + (high.val - 0xD800), 0xDC00 + (low.val - 0xDC00)] := by
            rw [Scalar.codePoint_pair, Nat.add_assoc, utf16_add, upper, lower]
        _ = [high.val, low.val] := by
            rw [Nat.add_sub_cancel' isHigh.1, Nat.add_sub_cancel' isLow.1]
        _ = utf16 high.val ++ utf16 low.val := by
            rw [utf16_of_lt (show high.val < 0x10000 by omega),
              utf16_of_lt (show low.val < 0x10000 by omega)]
            rfl
        _ = [high, low].flatMap fun c => utf16 c.val := by simp

theorem utf16_scalars (t : Text) :
    ((Text.scalars t).map Scalar.codePoint).flatMap utf16 = (t.map Fin.val).flatMap utf16 := by
  rw [List.flatMap_map, List.flatMap_map]
  calc
    (Text.scalars t).flatMap (fun s => utf16 s.codePoint)
      = (Text.scalars t).flatMap fun s => s.text.flatMap fun c => utf16 c.val := by
        apply List.flatMap_congr
        intro s member
        exact utf16_codePoint (Text.wellFormed_of_mem_scalars member)
    _ = ((Text.scalars t).flatMap Scalar.text).flatMap fun c => utf16 c.val :=
        List.flatMap_assoc.symm
    _ = t.flatMap fun c => utf16 c.val := by rw [Text.flatMap_text_scalars]

/-- The scalars of a text make it up without cutting a surrogate pair into halves, as no
other units do. In UTF-16 their numbers have the code units of the text. -/
theorem Text.scalars_segment (t : Text) :
    Segmentation t ((scalars t).map Scalar.text) ∧
      (∀ units : List Text, Segmentation t units → units = (scalars t).map Scalar.text) ∧
      ((scalars t).map Scalar.codePoint).flatMap utf16 = (t.map Fin.val).flatMap utf16 :=
  ⟨segmentation_scalars t, fun _ segmented => segmented.eq_scalars, utf16_scalars t⟩

/-- Of two high surrogates the second makes the pair, and of two low ones the first. -/
example :
    (Text.scalars [0xD83D, 0xD83D, 0xDE00, 0xDE00]).map Scalar.codePoint =
      [0xD83D, 0x1F600, 0xDE00] := by
  decide

end Tailoring

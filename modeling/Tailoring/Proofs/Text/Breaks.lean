import Mathlib.Data.List.Induction
import Tailoring.Proofs.Text.Search
import Tailoring.Text.Blank

/-!
# Carriage returns before line feeds

A text with a carriage return put before each of its line feeds. Both are
blanks, so trimming commutes with it; and what is searched for from the end is
found at the place that corresponds, also if the text has carriage returns of
its own.
-/

set_option autoImplicit false

namespace Tailoring

/-- U+000D. -/
def carriageReturn : CodePoint := 0x0D

namespace Text

/-- The code point, after a carriage return if it is a line feed. -/
def returned (c : CodePoint) : Text :=
  if c = lineFeed then [carriageReturn, lineFeed] else [c]

/-- The text with a carriage return before each line feed. -/
def withReturns (t : Text) : Text :=
  t.flatMap returned

@[simp] theorem withReturns_nil : withReturns [] = [] := rfl

@[simp] theorem withReturns_cons (c : CodePoint) (t : Text) :
    withReturns (c :: t) = returned c ++ withReturns t := rfl

@[simp] theorem withReturns_append (front back : Text) :
    withReturns (front ++ back) = withReturns front ++ withReturns back :=
  List.flatMap_append

@[simp] theorem returned_lineFeed : returned lineFeed = [carriageReturn, lineFeed] := rfl

theorem returned_of_ne {c : CodePoint} (other : c ≠ lineFeed) : returned c = [c] :=
  if_neg other

theorem withReturns_of_not_mem {t : Text} (unbroken : lineFeed ∉ t) : withReturns t = t := by
  induction t with
  | nil => rfl
  | cons c t ih =>
      have other : c ≠ lineFeed := (List.ne_of_not_mem_cons unbroken).symm
      rw [withReturns_cons, returned_of_ne other, ih (List.not_mem_of_not_mem_cons unbroken),
        List.singleton_append]

theorem head?_withReturns_ne (t : Text) : (withReturns t).head? ≠ some lineFeed := by
  cases t with
  | nil => simp
  | cons c t =>
      by_cases feed : c = lineFeed
      · subst feed
        exact fun same => absurd (Option.some.inj same) (by decide)
      · simpa [returned_of_ne feed] using feed

theorem getLast?_withReturns (t : Text) : (withReturns t).getLast? = t.getLast? := by
  rcases List.eq_nil_or_concat t with rfl | ⟨front, c, rfl⟩
  · rfl
  · by_cases feed : c = lineFeed
    · subst feed
      simp
    · simp [returned_of_ne feed]

/-! ## Trimming -/

theorem trimStart_cons (c : CodePoint) (t : Text) :
    trimStart (c :: t) = if c.isBlank then trimStart t else c :: t := by
  rw [trimStart, List.dropWhile_cons]
  rfl

theorem trimEnd_concat (t : Text) (c : CodePoint) :
    trimEnd (t ++ [c]) = if c.isBlank then trimEnd t else t ++ [c] := by
  rw [trimEnd, List.reverse_append, List.reverse_singleton, List.singleton_append,
    List.dropWhile_cons]
  split
  · rfl
  · simp

theorem trimStart_withReturns (t : Text) :
    trimStart (withReturns t) = withReturns (trimStart t) := by
  induction t with
  | nil => rfl
  | cons c t ih =>
      rw [withReturns_cons, trimStart_cons]
      by_cases feed : c = lineFeed
      · subst feed
        exact ih
      · rw [returned_of_ne feed, List.singleton_append, trimStart_cons, ih]
        split
        · rfl
        · rw [withReturns_cons, returned_of_ne feed, List.singleton_append]

theorem trimEnd_withReturns (t : Text) : trimEnd (withReturns t) = withReturns (trimEnd t) := by
  induction t using List.reverseRecOn with
  | nil => rfl
  | append_singleton t c ih =>
      rw [withReturns_append, trimEnd_concat]
      by_cases feed : c = lineFeed
      · subst feed
        have blanks : withReturns [lineFeed] = [carriageReturn] ++ [lineFeed] := rfl
        rw [blanks, ← List.append_assoc, trimEnd_concat, trimEnd_concat]
        exact ih
      · have alone : withReturns [c] = [c] := by simp [returned_of_ne feed]
        rw [alone, trimEnd_concat, ih]
        split
        · rfl
        · rw [withReturns_append, alone]

theorem trim_withReturns (t : Text) : trim (withReturns t) = withReturns (trim t) := by
  rw [trim, trimStart_withReturns, trimEnd_withReturns, trim]

/-! ## Searching from the end -/

theorem lastIndexOf?_cons_of_elsewhere {needle t : Text} {c : CodePoint}
    (elsewhere : ¬needle <+: c :: t) :
    lastIndexOf? needle (c :: t) = (lastIndexOf? needle t).map (· + 1) := by
  rw [lastIndexOf?]
  cases lastIndexOf? needle t with
  | some index => rfl
  | none =>
      have notHere : needle.isPrefixOf (c :: t) = false := by
        rwa [← Bool.not_eq_true, List.isPrefixOf_iff_prefix]
      simp [notHere]

theorem getElem?_of_lastIndexOf? {c : CodePoint} {t : Text} {index : Nat}
    (found : lastIndexOf? [c] t = some index) : t[index]? = some c := by
  induction t generalizing index with
  | nil => cases found
  | cons d t ih =>
      rw [lastIndexOf?] at found
      split at found
      · next later foundLater =>
          cases found
          exact ih foundLater
      · split at found
        · next here =>
            cases found
            have same : c = d := by simpa using here
            rw [same]
            rfl
        · cases found

/-- The last occurrence of a text among the carriage returns is where the last
occurrence of a code point is without them. -/
def FoundAlike (needle : Text) (c : CodePoint) (t : Text) : Prop :=
  lastIndexOf? needle (withReturns t) =
    (lastIndexOf? [c] t).map fun index => (withReturns (t.take index)).length

theorem FoundAlike.cons {needle t : Text} {c : CodePoint} {index : Nat}
    (alike : FoundAlike needle c t) (found : lastIndexOf? [c] t = some index) (d : CodePoint) :
    FoundAlike needle c (d :: t) := by
  rw [FoundAlike, found] at alike
  rw [FoundAlike, withReturns_cons, lastIndexOf?_append alike, lastIndexOf?, found]
  simp

theorem foundAlike_of_ne {c : CodePoint} (notReturn : c ≠ carriageReturn)
    (notFeed : c ≠ lineFeed) (t : Text) : FoundAlike [c] c t := by
  induction t with
  | nil => rfl
  | cons d t ih =>
      cases found : lastIndexOf? [c] t with
      | some index => exact ih.cons found d
      | none =>
          rw [FoundAlike, found] at ih
          rw [FoundAlike, withReturns_cons]
          by_cases feed : d = lineFeed
          · subst feed
            rw [returned_lineFeed, List.cons_append, List.singleton_append,
              lastIndexOf?_cons_of_elsewhere (by simpa using notReturn),
              lastIndexOf?_cons_of_elsewhere (by simpa using notFeed), ih,
              lastIndexOf?_cons_of_elsewhere (by simpa using notFeed), found]
            rfl
          · rw [returned_of_ne feed, List.singleton_append, lastIndexOf?, ih, lastIndexOf?, found]
            by_cases same : c = d
            · simp [same]
            · simp [same]

theorem foundAlike_lineFeed (t : Text) : FoundAlike [carriageReturn, lineFeed] lineFeed t := by
  induction t with
  | nil => rfl
  | cons d t ih =>
      cases found : lastIndexOf? [lineFeed] t with
      | some index => exact ih.cons found d
      | none =>
          rw [FoundAlike, found] at ih
          rw [FoundAlike, withReturns_cons]
          by_cases feed : d = lineFeed
          · subst feed
            have notAfter : lastIndexOf? [carriageReturn, lineFeed]
                (lineFeed :: withReturns t) = none := by
              rw [lastIndexOf?_cons_of_elsewhere (by simp [carriageReturn, lineFeed]), ih]
              rfl
            rw [returned_lineFeed, List.cons_append, List.singleton_append, lastIndexOf?, notAfter,
              lastIndexOf?, found]
            simp
          · -- a carriage return of the text itself has no line feed after it any more
            have notHere : ¬[carriageReturn, lineFeed] <+: d :: withReturns t := by
              intro starts
              obtain ⟨rest, whole⟩ := starts
              apply head?_withReturns_ne t
              rw [← (List.cons.inj whole).2]
              rfl
            have otherHere : ¬[lineFeed] <+: d :: t := by
              simpa [eq_comm] using feed
            rw [returned_of_ne feed, List.singleton_append,
              lastIndexOf?_cons_of_elsewhere notHere, ih,
              lastIndexOf?_cons_of_elsewhere otherHere, found]
            rfl

theorem length_withReturns_take_max (t : Text) (a b : Nat) :
    (withReturns (t.take (max a b))).length =
      max (withReturns (t.take a)).length (withReturns (t.take b)).length := by
  have mono : ∀ {a b : Nat}, a ≤ b →
      (withReturns (t.take a)).length ≤ (withReturns (t.take b)).length := by
    intro a b le
    obtain ⟨more, split⟩ := List.take_prefix_take_left (l := t) le
    rw [← split, withReturns_append, List.length_append]
    omega
  rcases Nat.le_total a b with le | le
  · rw [Nat.max_eq_right le, Nat.max_eq_right (mono le)]
  · rw [Nat.max_eq_left le, Nat.max_eq_left (mono le)]

/-- What follows the last occurrence follows it alike, if the whole of what the code
point has become is searched for. -/
theorem FoundAlike.after {needle t : Text} {c : CodePoint} (alike : FoundAlike needle c t)
    (whole : needle.length = (returned c).length) :
    (lastIndexOf? needle (withReturns t)).elim 0 (· + needle.length) =
      (withReturns (t.take ((lastIndexOf? [c] t).elim 0 (· + 1)))).length := by
  rw [alike]
  cases found : lastIndexOf? [c] t with
  | none => rfl
  | some index =>
      have there := getElem?_of_lastIndexOf? found
      simp only [Option.map_some, Option.elim_some]
      rw [List.take_add_one, there, withReturns_append, whole]
      simp

/-! ## Texts with one kind of line break and with the other -/

/-- The second text is the first with a carriage return before each line feed, and
a line feed is not the end. -/
structure Rebroken (short long : Text) : Prop where
  eq_withReturns : long = withReturns short
  goesOn : short.getLast? ≠ some lineFeed

namespace Rebroken

theorem of_not_mem {t : Text} (unbroken : lineFeed ∉ t) : Rebroken t t where
  eq_withReturns := (withReturns_of_not_mem unbroken).symm
  goesOn := fun last => unbroken (List.mem_of_getLast? last)

theorem nil : Rebroken [] [] :=
  of_not_mem List.not_mem_nil

theorem append {short long short' long' : Text} (front : Rebroken short long)
    (back : Rebroken short' long') : Rebroken (short ++ short') (long ++ long') where
  eq_withReturns := by
    rw [front.eq_withReturns, back.eq_withReturns, withReturns_append]
  goesOn := by
    rw [List.getLast?_append]
    cases last : short'.getLast? with
    | none => simpa using front.goesOn
    | some c => simpa [last] using back.goesOn

/-- A new line with something on it. -/
theorem newLine {t : Text} (present : t ≠ []) (unbroken : lineFeed ∉ t) :
    Rebroken ("\n" ++ t) ("\r\n" ++ t) where
  eq_withReturns := by
    rw [withReturns_append, withReturns_of_not_mem unbroken]
    rfl
  goesOn := by
    rw [List.getLast?_append_of_ne_nil _ present]
    exact fun last => unbroken (List.mem_of_getLast? last)

theorem flatMap {Piece : Type} {short long : Piece → Text} {pieces : List Piece}
    (rebroken : ∀ piece ∈ pieces, Rebroken (short piece) (long piece)) :
    Rebroken (pieces.flatMap short) (pieces.flatMap long) := by
  induction pieces with
  | nil => exact nil
  | cons piece pieces ih =>
      rw [List.flatMap_cons, List.flatMap_cons]
      exact (rebroken piece (by simp)).append (ih fun later member => rebroken later (.tail _ member))

end Rebroken

end Text

end Tailoring

import Tailoring.Proofs.SimpleRules.Group

/-!
# The brackets of simple rules

Of a text only its brackets are looked at. They alternate if each that opens is
closed before another opens, and are deep if two are open at once somewhere.
-/

set_option autoImplicit false

namespace Tailoring.SimpleRules

def opening : CodePoint := '('

def closing : CodePoint := ')'

theorem closing_ne_opening : closing ≠ opening := by decide

def isBracket (c : CodePoint) : Bool :=
  decide (c = opening) || decide (c = closing)

/-- The brackets of a text. -/
def brackets (t : Text) : Text :=
  t.filter isBracket

@[simp]
theorem brackets_append (front back : Text) :
    brackets (front ++ back) = brackets front ++ brackets back :=
  List.filter_append front back

theorem brackets_halves (t : Text) (count : Nat) :
    brackets (t.take count) ++ brackets (t.drop count) = brackets t := by
  rw [← brackets_append, List.take_append_drop]

theorem brackets_drop_eq_nil {t : Text} (free : brackets t = []) (count : Nat) :
    brackets (t.drop count) = [] := by
  have kept := (List.drop_sublist count t).filter isBracket
  rw [show t.filter isBracket = [] from free] at kept
  exact List.sublist_nil.mp kept

theorem isBlank_of_isBracket {c : CodePoint} (bracket : isBracket c = true) :
    c.isBlank = false := by
  rcases (Bool.or_eq_true _ _).mp bracket with isOpening | isClosing
  · rw [of_decide_eq_true isOpening]
    decide
  · rw [of_decide_eq_true isClosing]
    decide

theorem brackets_solid (t : Text) : brackets t.solid = brackets t := by
  unfold brackets Text.solid
  rw [List.filter_filter]
  apply List.filter_congr
  intro c _
  cases bracket : isBracket c with
  | false => rfl
  | true => rw [isBlank_of_isBracket bracket]; rfl

theorem brackets_trim (t : Text) : brackets t.trim = brackets t := by
  rw [← brackets_solid, Text.solid_trim, brackets_solid]

theorem brackets_separator {newline separator : Text} (lineBreak : LineBreak newline)
    (known : separator = newline ∨ separator = [space]) : brackets separator = [] := by
  rcases known with rfl | rfl
  · rcases lineBreak with rfl | rfl
    · decide
    · decide
  · decide

/-! ## Alternating and deep brackets -/

/-- Brackets that open and close in turn. -/
inductive Alternates : Text → Prop where
  | nil : Alternates []
  | pair {rest : Text} : Alternates rest → Alternates (opening :: closing :: rest)

/-- Somewhere in the brackets two or more are open. -/
def Deep (w : Text) : Prop :=
  ∃ front back, w = front ++ back ∧ front.count closing + 2 ≤ front.count opening

theorem Alternates.pair_after {done : Text} (alternates : Alternates done) :
    Alternates (done ++ [opening] ++ [closing]) := by
  induction alternates with
  | nil => exact .pair .nil
  | pair _ ih => exact .pair ih

theorem Alternates.count_eq {w : Text} (alternates : Alternates w) :
    w.count opening = w.count closing := by
  induction alternates with
  | nil => rfl
  | pair _ ih => simp [ih, closing_ne_opening, closing_ne_opening.symm]

theorem Alternates.count_le {w : Text} (alternates : Alternates w) {front : Text}
    (first : front <+: w) : front.count opening ≤ front.count closing + 1 := by
  induction alternates generalizing front with
  | nil =>
      rw [List.prefix_nil.mp first]
      decide
  | pair _ ih =>
      cases front with
      | nil => decide
      | cons c front =>
          obtain ⟨rfl, second⟩ := List.cons_prefix_cons.mp first
          cases front with
          | nil => decide
          | cons d front =>
              obtain ⟨rfl, later⟩ := List.cons_prefix_cons.mp second
              simpa [closing_ne_opening, closing_ne_opening.symm] using ih later

theorem Alternates.not_deep {w : Text} (alternates : Alternates w) : ¬Deep w := by
  intro deep
  obtain ⟨front, back, rfl, twoOpen⟩ := deep
  have bounded := alternates.count_le (List.prefix_append front back)
  omega

theorem Deep.append {w : Text} (deep : Deep w) (more : Text) : Deep (w ++ more) := by
  obtain ⟨front, back, rfl, twoOpen⟩ := deep
  exact ⟨front, back ++ more, by rw [List.append_assoc], twoOpen⟩

theorem count_opening_insert (front back : Text) :
    (front ++ [opening] ++ back).count opening = (front ++ back).count opening + 1 := by
  simp only [List.count_append, List.count_cons_self, List.count_nil]
  omega

theorem count_closing_insert (front back : Text) :
    (front ++ [opening] ++ back).count closing = (front ++ back).count closing := by
  simp [closing_ne_opening.symm]

theorem Deep.insert {front back : Text} (deep : Deep (front ++ back)) :
    Deep (front ++ [opening] ++ back) := by
  obtain ⟨front', back', split, twoOpen⟩ := deep
  rcases List.append_eq_append_iff.mp split with ⟨more, rfl, rfl⟩ | ⟨more, rfl, rfl⟩
  · refine ⟨front ++ [opening] ++ more, back', by simp, ?_⟩
    rw [count_opening_insert, count_closing_insert]
    omega
  · exact ⟨front', more ++ [opening] ++ back, by simp, twoOpen⟩

/-- Another bracket that opens anywhere before the last one closes makes them deep. -/
theorem deep_of_reopened {done front back : Text} (alternates : Alternates done)
    (split : done ++ [opening] = front ++ back) : Deep (front ++ [opening] ++ back ++ [closing]) := by
  refine ⟨front ++ [opening] ++ back, [closing], rfl, ?_⟩
  have opened : (front ++ back).count opening = done.count opening + 1 := by
    rw [← split, List.count_append, List.count_singleton_self]
  have closed : (front ++ back).count closing = done.count closing := by
    rw [← split, ← List.append_nil (done ++ [opening]), count_closing_insert, List.append_nil]
  have balanced := alternates.count_eq
  rw [count_opening_insert, count_closing_insert]
  omega

/-! ## Where a bracket opens -/

namespace Draft

/-- A bracket opens after every separator. -/
theorem le_tokenStart {newline separator : Text}
    (known : separator = newline ∨ separator = [space]) (front back : Text) :
    (front ++ separator).length ≤ tokenStart newline (front ++ separator ++ back) := by
  obtain ⟨index, found⟩ := Text.exists_lastIndexOf? separator back
  have foundLater := Text.lastIndexOf?_append found front
  rw [← List.append_assoc] at foundLater
  unfold tokenStart
  rcases known with rfl | rfl
  · rw [foundLater, List.length_append]
    apply Nat.le_trans _ (Nat.le_max_left _ _)
    simp
  · rw [foundLater, List.length_append]
    apply Nat.le_trans _ (Nat.le_max_right _ _)
    simp

/-- A bracket that has closed at the end stays there when another opens. -/
theorem tokenStart_le {newline : Text} (lineBreak : LineBreak newline) (front : Text) :
    tokenStart newline (front ++ [closing]) ≤ front.length := by
  have solid : ∀ c ∈ ([closing] : Text), c.isBlank = false := by
    intro c member
    rw [List.mem_singleton.mp member]
    decide
  have spaceBlank : ∀ c ∈ [space], c.isBlank = true := by
    intro c member
    rw [List.mem_singleton.mp member]
    rfl
  obtain ⟨c, more, rfl, -⟩ := lineBreak.eq_cons
  apply Nat.max_le.mpr
  constructor
  · exact after_lastIndexOf?_le front (by simp) lineBreak.blank solid
  · exact after_lastIndexOf?_le front (by simp) spaceBlank solid

end Draft

end Tailoring.SimpleRules

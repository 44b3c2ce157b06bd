import Mathlib.Data.Finset.Card
import Tailoring.Proofs.CommandLine.OutputName
import Tailoring.Proofs.Text.Search

/-!
# The search for an output name

A name in use gives way to the next numbered one, for as long as it takes. The search
comes to an end, and what it ends with is the name that is chosen. With each name
that is passed over one more name is in use, the one without a number included, and
so the number is no greater than one more than there are names.
-/

set_option autoImplicit false

namespace Tailoring.CommandLine.OutputName

/-! ## Extensions -/

def dot : CodePoint := '.'

/-- How a suffix is cut into a root and an extension: before its last dot, provided that
something other than dots is before that; otherwise it is all root. -/
inductive Splits : Text → Text → Text → Prop where
  | extension {root tail : Text} : (∃ c ∈ root, c ≠ dot) → dot ∉ tail →
      Splits (root ++ dot :: tail) root (dot :: tail)
  | whole {dots name : Text} : (∀ c ∈ dots, c = dot) → dot ∉ name →
      Splits (dots ++ name) (dots ++ name) []

theorem Splits.append_eq {suffix root extension : Text} (split : Splits suffix root extension) :
    root ++ extension = suffix := by
  cases split with
  | extension => rfl
  | whole => exact List.append_nil _

theorem exists_splits (suffix : Text) : ∃ root extension, Splits suffix root extension := by
  by_cases dotted : dot ∈ suffix
  · obtain ⟨later, earlier, shape, last⟩ :=
      List.eq_append_cons_of_mem (List.mem_reverse.mpr dotted)
    obtain rfl : suffix = earlier.reverse ++ dot :: later.reverse := by
      rw [← List.reverse_reverse suffix, shape]
      simp
    have undotted : dot ∉ later.reverse := mt List.mem_reverse.mp last
    by_cases leading : ∀ c ∈ earlier.reverse, c = dot
    · have dots : ∀ c ∈ earlier.reverse ++ [dot], c = dot :=
        List.forall_mem_append.mpr ⟨leading, List.forall_mem_singleton.mpr rfl⟩
      rw [List.append_cons]
      exact ⟨_, [], .whole dots undotted⟩
    · push Not at leading
      exact ⟨_, _, .extension leading undotted⟩
  · exact ⟨[] ++ suffix, [], .whole (List.forall_mem_nil _) dotted⟩

theorem splitExtension_of_undotted {suffix : Text} (undotted : dot ∉ suffix) :
    splitExtension suffix = (suffix, []) := by
  have absent : Text.lastIndexOf? "." suffix = none := Text.lastIndexOf?_of_absent [] undotted
  simp only [splitExtension, absent]

theorem splitExtension_at_last_dot {root tail : Text}
    (plain : ('/' : CodePoint) ∉ root ++ dot :: tail) (undotted : dot ∉ tail) :
    splitExtension (root ++ dot :: tail) =
      if root.any (· != dot) then (root, dot :: tail) else (root ++ dot :: tail, []) := by
  have single : Text.lastIndexOf? "/" (root ++ dot :: tail) = none :=
    Text.lastIndexOf?_of_absent [] plain
  have last : Text.lastIndexOf? "." (root ++ dot :: tail) = some root.length := by
    rw [List.append_cons]
    exact Text.lastIndexOf?_at_end undotted root
  simp only [splitExtension, single, last, List.take_left, List.drop_left, Option.elim_none,
    List.drop_zero]
  rfl

theorem splitExtension_of_splits {suffix root extension : Text}
    (plain : ('/' : CodePoint) ∉ suffix) (split : Splits suffix root extension) :
    splitExtension suffix = (root, extension) := by
  cases split with
  | extension named undotted =>
      rw [splitExtension_at_last_dot plain undotted, if_pos (by simpa using named)]
  | @whole dots name leading undotted =>
      rcases List.eq_nil_or_concat' dots with rfl | ⟨before, c, rfl⟩
      · exact splitExtension_of_undotted undotted
      · obtain rfl : c = dot := leading c (by simp)
        rw [← List.append_cons] at plain ⊢
        rw [splitExtension_at_last_dot plain undotted, if_neg]
        simpa using fun c member => leading c (by simp [member])

theorem numbered_of_splits {suffix root extension : Text} (stem : Text)
    (plain : ('/' : CodePoint) ∉ suffix) (split : Splits suffix root extension) (number : Nat) :
    numbered stem suffix number = stem ++ root ++ "-" ++ Text.ofNat number ++ extension := by
  rw [numbered, splitExtension_of_splits plain split]

/-! ## The search -/

/-- The search goes on from a name, with the number that is to be tried next. It ends with
the first name that is free. -/
inductive Search (existing : List Text) (stem suffix : Text) : Text → Nat → Text → Prop where
  | free {name : Text} {number : Nat} : name ∉ existing →
      Search existing stem suffix name number name
  | taken {name found : Text} {number : Nat} : name ∈ existing →
      Search existing stem suffix (numbered stem suffix number) (number + 1) found →
      Search existing stem suffix name number found

section

variable {existing : List Text} {stem suffix : Text}

theorem Search.unique {name found found' : Text} {number : Nat}
    (search : Search existing stem suffix name number found)
    (search' : Search existing stem suffix name number found') : found = found' := by
  induction search with
  | free free =>
      cases search' with
      | free => rfl
      | taken taken => exact absurd taken free
  | taken taken _ ih =>
      cases search' with
      | free free => exact absurd taken free
      | taken _ rest => exact ih rest

theorem search_numbered {number gap : Nat}
    (taken : ∀ smaller, number ≤ smaller → smaller < number + gap →
      numbered stem suffix smaller ∈ existing)
    (free : numbered stem suffix (number + gap) ∉ existing) :
    Search existing stem suffix (numbered stem suffix number) (number + 1)
      (numbered stem suffix (number + gap)) := by
  -- on the numbers that are left
  induction gap generalizing number with
  | zero => exact .free free
  | succ gap ih =>
      have shift : number + (gap + 1) = number + 1 + gap := by omega
      rw [shift] at taken free ⊢
      refine .taken (taken number (Nat.le_refl _) (by omega)) (ih ?_ free)
      intro smaller tried less
      exact taken smaller (by omega) less

theorem search_freeNumber :
    Search existing stem suffix (numbered stem suffix 2) 3
      (numbered stem suffix (freeNumber existing stem suffix)) := by
  obtain ⟨gap, least⟩ := Nat.exists_eq_add_of_le (two_le_freeNumber existing stem suffix)
  have free := numbered_freeNumber_not_mem existing stem suffix
  rw [least] at free ⊢
  refine search_numbered (fun smaller tried less => ?_) free
  exact numbered_mem_of_lt_freeNumber tried (least.symm ▸ less)

/-! ## The name that is chosen -/

theorem choose_of_free (named : stem ++ suffix ≠ [] ∧ stem ++ suffix ≠ "." ∧ stem ++ suffix ≠ "..")
    (free : stem ++ suffix ∉ existing) : choose existing stem suffix = stem ++ suffix :=
  if_neg (mt (isTaken_iff named).mp free)

theorem choose_of_mem (taken : stem ++ suffix ∈ existing) :
    choose existing stem suffix = numbered stem suffix (freeNumber existing stem suffix) :=
  if_pos (by simp [isTaken, taken])

theorem search_choose (named : stem ++ suffix ≠ [] ∧ stem ++ suffix ≠ "." ∧ stem ++ suffix ≠ "..") :
    Search existing stem suffix (stem ++ suffix) 2 (choose existing stem suffix) := by
  by_cases taken : stem ++ suffix ∈ existing
  · rw [choose_of_mem taken]
    exact .taken taken search_freeNumber
  · rw [choose_of_free named taken]
    exact .free taken

theorem numbered_ne (plain : ('/' : CodePoint) ∉ suffix) (number : Nat) :
    numbered stem suffix number ≠ stem ++ suffix := by
  obtain ⟨root, extension, split⟩ := exists_splits suffix
  intro same
  rw [numbered_of_splits stem plain split, ← split.append_eq] at same
  have longer := congrArg List.length same
  have hyphen : List.length ("-" : Text) = 1 := rfl
  simp only [List.length_append, hyphen] at longer
  omega

/-- The names that are passed over are different, and all in use. -/
theorem freeNumber_le (plain : ('/' : CodePoint) ∉ suffix) (taken : stem ++ suffix ∈ existing) :
    freeNumber existing stem suffix ≤ existing.toFinset.card + 1 := by
  let passed := (List.range' 2 (freeNumber existing stem suffix - 2)).map (numbered stem suffix)
  have distinct : ((stem ++ suffix) :: passed).Nodup := by
    refine List.nodup_cons.mpr ⟨fun member => ?_, ?_⟩
    · obtain ⟨number, -, same⟩ := List.mem_map.mp member
      exact numbered_ne plain number same
    · exact List.Nodup.map (numbered_injective stem suffix) List.nodup_range'
  have inUse : ((stem ++ suffix) :: passed).toFinset ⊆ existing.toFinset := by
    intro name member
    rw [List.mem_toFinset] at member ⊢
    rcases List.mem_cons.mp member with rfl | member
    · exact taken
    · obtain ⟨number, tried, rfl⟩ := List.mem_map.mp member
      have range := List.mem_range'_1.mp tried
      exact numbered_mem_of_lt_freeNumber range.1 (by omega)
  have bounded := Finset.card_le_card inUse
  rw [List.toFinset_card_of_nodup distinct, List.length_cons, List.length_map,
    List.length_range'] at bounded
  omega

end

/-- Whatever names are in use, the search ends, with the name that is chosen and no other.
It is free: the name without a number if that is, and otherwise the one with the least
number from two on that makes it so. -/
theorem choose_least_free {existing : List Text} {stem suffix : Text}
    (plain : ('/' : CodePoint) ∉ stem ++ suffix)
    (named : stem ++ suffix ≠ [] ∧ stem ++ suffix ≠ "." ∧ stem ++ suffix ≠ "..") :
    (∀ found, Search existing stem suffix (stem ++ suffix) 2 found ↔
        found = choose existing stem suffix) ∧
      choose existing stem suffix ∉ existing ∧
      (stem ++ suffix ∉ existing → choose existing stem suffix = stem ++ suffix) ∧
      (stem ++ suffix ∈ existing → ∃ root extension number,
        Splits suffix root extension ∧
        choose existing stem suffix =
          stem ++ root ++ "-" ++ Text.ofNat number ++ extension ∧
        2 ≤ number ∧ number ≤ existing.toFinset.card + 1 ∧
        ∀ smaller, 2 ≤ smaller → smaller < number →
          stem ++ root ++ "-" ++ Text.ofNat smaller ++ extension ∈ existing) := by
  have plainSuffix : ('/' : CodePoint) ∉ suffix := fun member =>
    plain (List.mem_append_right stem member)
  refine ⟨fun found => ⟨fun search => search.unique (search_choose named), ?_⟩,
    choose_not_mem existing stem suffix, choose_of_free named, fun taken => ?_⟩
  · rintro rfl
    exact search_choose named
  · obtain ⟨root, extension, split⟩ := exists_splits suffix
    have spelled := numbered_of_splits stem plainSuffix split
    refine ⟨root, extension, freeNumber existing stem suffix, split, ?_,
      two_le_freeNumber existing stem suffix, freeNumber_le plainSuffix taken, ?_⟩
    · rw [choose_of_mem taken, spelled]
    · intro smaller tried less
      rw [← spelled]
      exact numbered_mem_of_lt_freeNumber tried less

/-- The dot that the suffix starts with begins no extension, and the bound is reached. -/
theorem choose_least_free_leading_dot :
    let existing : List Text := ["a.txt", "a.txt-3", "a.txt-2"]
    ('/' : CodePoint) ∉ ("a" : Text) ++ ".txt" ∧
      choose existing "a" ".txt" = "a.txt-4" ∧
      Search existing "a" ".txt" "a.txt" 2 "a.txt-4" ∧
      ∃ root extension number, Splits ".txt" root extension ∧
        ("a.txt-4" : Text) = "a" ++ root ++ "-" ++ Text.ofNat number ++ extension ∧
        number ≤ existing.toFinset.card + 1 := by
  intro existing
  have plain : ('/' : CodePoint) ∉ ("a" : Text) ++ ".txt" := by decide
  have chosen : choose existing "a" ".txt" = "a.txt-4" := by decide
  obtain ⟨ends, -, -, least⟩ := @choose_least_free existing "a" ".txt" plain (by decide)
  obtain ⟨root, extension, number, split, spelled, -, bounded, -⟩ := least (by decide)
  rw [chosen] at ends spelled
  exact ⟨plain, chosen, (ends _).mpr rfl, root, extension, number, split, spelled, bounded⟩

end Tailoring.CommandLine.OutputName

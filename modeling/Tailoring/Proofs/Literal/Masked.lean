import Tailoring.Proofs.Literal.Decoding

/-!
# Escapes that decoding uncovers

Long escapes are decoded first, and the short ones of what results afterwards. A
short escape may therefore be found whose backslash, letter or digits were
themselves written as long escapes, and what one of them encodes is decoded a
second time. Decoding in one pass has the same result exactly if the text has no
such masked escape.
-/

set_option autoImplicit false

namespace Tailoring.Literal

/-- A text with some of its code points written as long escapes. -/
inductive Respells : Text → Text → Prop where
  | nil : Respells [] []
  | copied {c t plain} : Respells t plain → Respells (c :: t) (c :: plain)
  | escaped {escape c t plain} : IsLong escape → decodeEscape escape = .ok c →
      Respells t plain → Respells (escape ++ t) (c :: plain)

/-- A short escape that shows only after long escapes have been decoded. -/
def IsMasked (t : Text) : Prop :=
  ∃ escape, IsShort escape ∧ Respells t escape ∧ t ≠ escape

def StartsMasked (t : Text) : Prop :=
  ∃ masked after, t = masked ++ after ∧ IsMasked masked

def HasMasked (t : Text) : Prop :=
  ∃ before masked after, t = before ++ masked ++ after ∧ IsMasked masked

/-! ## Passing over what is respelled -/

theorem Decodes.respelled {pass : Text → Except Fault Text} (decodes : Decodes pass)
    {t plain : Text} (respells : Respells t plain) (free : backslash ∉ plain) (rest : Text) :
    pass (t ++ rest) = do
      let decodedRest ← pass rest
      return plain ++ decodedRest := by
  induction respells with
  | nil =>
      rw [List.nil_append]
      cases pass rest <;> rfl
  | @copied c t plain _ ih =>
      have other : c ≠ backslash := (List.ne_of_not_mem_cons free).symm
      rw [List.cons_append, decodes.plain (unicodeEscapeLength_of_ne other),
        ih (List.not_mem_of_not_mem_cons free)]
      cases pass rest <;> rfl
  | @escaped escape c t plain valid decoded _ ih =>
      rw [List.append_assoc, decodes.long valid, decoded, ih (List.not_mem_of_not_mem_cons free)]
      cases pass rest <;> rfl

/-- A text that is not respelled as it is has an escape, and so a backslash, where
no more than the text would be over. -/
theorem Respells.eq_or_exists_backslash {t plain : Text} (respells : Respells t plain) :
    t = plain ∨ ∃ front back, t = front ++ backslash :: back ∧ front.length < plain.length := by
  induction respells with
  | nil => exact .inl rfl
  | @copied c t plain _ ih =>
      rcases ih with same | ⟨front, back, split, shorter⟩
      · exact .inl (by rw [same])
      · exact .inr ⟨c :: front, back, by rw [split]; rfl, Nat.succ_lt_succ shorter⟩
  | @escaped escape c t plain valid _ _ _ =>
      obtain ⟨tail, rfl, -⟩ := valid.unicode.exists_tail
      exact .inr ⟨[], tail ++ t, rfl, Nat.zero_lt_succ _⟩

/-- The backslash of a masked escape, if it is written as it is, starts no escape. -/
theorem uncounted_of_respells {t plain : Text} (respells : Respells t plain)
    (differs : t ≠ plain) (width : plain.length ≤ 5) (rest : Text) :
    unicodeEscapeLength (backslash :: (t ++ rest)) = 0 := by
  by_contra counted
  obtain ⟨escape, after, split, valid⟩ := exists_of_unicodeEscapeLength counted
  obtain ⟨front, back, rfl, shorter⟩ :=
    respells.eq_or_exists_backslash.resolve_left differs
  have long : 6 ≤ escape.length := by
    cases valid with
    | long eight => simp [eight]
    | short four => simp [four]
  obtain ⟨tail, rfl, free⟩ := valid.exists_tail
  have tails : front ++ (backslash :: (back ++ rest)) = tail ++ after := by
    simpa using split
  rcases List.append_eq_append_iff.mp tails with ⟨more, rfl, within⟩ | ⟨more, rfl, beyond⟩
  · cases more with
    | nil =>
        simp only [List.append_nil, List.length_cons] at long
        omega
    | cons c more =>
        obtain rfl : backslash = c := (List.cons.inj within).1
        exact free (by simp)
  · simp only [List.length_append, List.length_cons] at long shorter
    omega

/-- A masked escape is decoded to the short escape, by the long pass and by a single
pass alike. -/
theorem Decodes.masked {pass : Text → Except Fault Text} (decodes : Decodes pass)
    {masked escape : Text} (valid : IsShort escape) (respells : Respells masked escape)
    (differs : masked ≠ escape) (rest : Text) :
    pass (masked ++ rest) = do
      let decodedRest ← pass rest
      return escape ++ decodedRest := by
  have length := valid.length
  obtain ⟨tail, rfl, free⟩ := valid.unicode.exists_tail
  cases respells with
  | @copied _ t _ respells =>
      have uncounted : unicodeEscapeLength (backslash :: (t ++ rest)) = 0 := by
        apply uncounted_of_respells respells
        · intro same
          exact differs (by rw [same])
        · simp only [List.length_cons] at length
          omega
      rw [List.cons_append, decodes.plain uncounted, decodes.respelled respells free]
      cases pass rest <;> rfl
  | @escaped long _ t _ validLong decoded respells =>
      rw [List.append_assoc, decodes.long validLong, decoded, decodes.respelled respells free]
      cases pass rest <;> rfl

/-! ## What the short pass finds -/

/-- Whatever the long pass has put out first, it has read in some spelling. -/
theorem exists_respells {t front back : Text}
    (decoded : decodeFrom 'U' 8 0 t = .ok (front ++ back)) :
    ∃ spelled rest, t = spelled ++ rest ∧ Respells spelled front ∧
      decodeFrom 'U' 8 0 rest = .ok back := by
  induction front generalizing t with
  | nil => exact ⟨[], t, rfl, .nil, decoded⟩
  | cons c front ih =>
      cases startsHere : startsUnicodeEscape 'U' 8 t with
      | true =>
          obtain ⟨escape, after, rfl, valid⟩ := exists_of_starts startsHere
          rw [decodes_long.long valid] at decoded
          obtain ⟨d, decodedEscape, decoded⟩ := Outcome.bind_eq_ok_iff.mp decoded
          obtain ⟨others, decodedRest, shape⟩ := Outcome.bind_eq_ok_iff.mp decoded
          cases shape
          obtain ⟨spelled, rest, rfl, respells, remaining⟩ := ih decodedRest
          exact ⟨escape ++ spelled, rest, by simp, .escaped valid decodedEscape respells, remaining⟩
      | false =>
          cases t with
          | nil => cases decoded
          | cons d t =>
              rw [decodeFrom_plain startsHere] at decoded
              obtain ⟨others, decodedRest, shape⟩ := Outcome.bind_eq_ok_iff.mp decoded
              cases shape
              obtain ⟨spelled, rest, rfl, respells, remaining⟩ := ih decodedRest
              exact ⟨c :: spelled, rest, rfl, .copied respells, remaining⟩

/-- The short pass finds an escape at the start only where the text has one, or a
masked one. -/
theorem not_starts_short {t decoded : Text} (unmasked : ¬StartsMasked t)
    (plain : startsUnicodeEscape 'u' 4 t = false)
    (long : decodeFrom 'U' 8 0 t = .ok decoded) :
    startsUnicodeEscape 'u' 4 decoded = false := by
  rw [Bool.eq_false_iff]
  intro startsHere
  obtain ⟨escape, back, rfl, valid⟩ := exists_of_starts startsHere
  obtain ⟨spelled, rest, rfl, respells, -⟩ := exists_respells long
  by_cases same : spelled = escape
  · rw [same, valid.starts rest] at plain
    cases plain
  · exact unmasked ⟨spelled, rest, rfl, escape, valid, respells, same⟩

theorem IsLong.not_starts_short {escape : Text} (valid : IsLong escape) (rest : Text) :
    startsUnicodeEscape 'u' 4 (escape ++ rest) = false := by
  obtain ⟨digits, rfl, -⟩ := valid
  have different : (('U' : CodePoint) == ('u' : CodePoint)) = false := by decide
  simp [startsUnicodeEscape, different]

theorem IsMasked.exists_tail {masked : Text} (isMasked : IsMasked masked) :
    ∃ tail, masked = backslash :: tail := by
  obtain ⟨escape, valid, respells, -⟩ := isMasked
  obtain ⟨tail, rfl, -⟩ := valid.unicode.exists_tail
  cases respells with
  | copied respells => exact ⟨_, rfl⟩
  | escaped validLong =>
      obtain ⟨longTail, rfl, -⟩ := validLong.unicode.exists_tail
      exact ⟨_, rfl⟩

/-- A masked escape starts with a backslash, so none starts within an escape. -/
theorem hasMasked_step_iff {c : CodePoint} {tail rest : Text} (free : backslash ∉ tail)
    (unmasked : ¬StartsMasked (c :: (tail ++ rest))) :
    HasMasked (c :: (tail ++ rest)) ↔ HasMasked rest := by
  constructor
  · intro has
    obtain ⟨before, masked, after, split, isMasked⟩ := has
    cases before with
    | nil => exact absurd ⟨masked, after, split, isMasked⟩ unmasked
    | cons d before =>
        have tails : tail ++ rest = before ++ (masked ++ after) := by
          rw [← List.append_assoc]
          exact (List.cons.inj split).2
        rcases List.append_eq_append_iff.mp tails with ⟨more, rfl, later⟩ | ⟨more, rfl, later⟩
        · exact ⟨more, masked, after, by rw [later, List.append_assoc], isMasked⟩
        · cases more with
          | nil => exact ⟨[], masked, after, later.symm, isMasked⟩
          | cons e more =>
              obtain ⟨maskedTail, rfl⟩ := isMasked.exists_tail
              obtain rfl : backslash = e := (List.cons.inj later).1
              exact absurd (by simp) free
  · intro has
    obtain ⟨before, masked, after, rfl, isMasked⟩ := has
    exact ⟨c :: (tail ++ before), masked, after, by simp, isMasked⟩

/-! ## Two passes beside one -/

/-- Two passes come to less than one if there is a masked escape, and else to the
same. -/
def Compares (t twice once : Text) : Prop :=
  HasMasked t ∧ twice.length < once.length ∨ ¬HasMasked t ∧ twice = once

theorem Compares.length_le {t twice once : Text} (compares : Compares t twice once) :
    twice.length ≤ once.length := by
  rcases compares with ⟨-, shorter⟩ | ⟨-, same⟩
  · exact Nat.le_of_lt shorter
  · exact Nat.le_of_eq (by rw [same])

theorem Compares.cons {t rest twice once : Text} (compares : Compares rest twice once)
    (step : HasMasked t ↔ HasMasked rest) (c : CodePoint) :
    Compares t (c :: twice) (c :: once) := by
  rcases compares with ⟨has, shorter⟩ | ⟨hasNot, same⟩
  · exact .inl ⟨step.mpr has, Nat.succ_lt_succ shorter⟩
  · exact .inr ⟨mt step.mp hasNot, by rw [same]⟩

/-- The results of both ways to decode a text, where it can be decoded, compare. -/
def Compared (t : Text) : Prop :=
  ∀ decoded twice once, decodeFrom 'U' 8 0 t = .ok decoded →
    decodeFrom 'u' 4 0 decoded = .ok twice → decodeOnce t = .ok once → Compares t twice once

namespace Compared

theorem nil : Compared [] := by
  intro decoded twice once long short single
  cases long
  cases short
  cases single
  refine .inr ⟨?_, rfl⟩
  intro has
  obtain ⟨before, masked, after, split, isMasked⟩ := has
  obtain ⟨tail, rfl⟩ := isMasked.exists_tail
  simp at split

theorem masked {masked rest : Text} (isMasked : IsMasked masked) (compared : Compared rest) :
    Compared (masked ++ rest) := by
  intro decoded twice once long short single
  have has : HasMasked (masked ++ rest) := ⟨[], masked, rest, rfl, isMasked⟩
  obtain ⟨escape, valid, respells, differs⟩ := isMasked
  rw [decodes_long.masked valid respells differs] at long
  obtain ⟨decodedRest, longRest, shape⟩ := Outcome.bind_eq_ok_iff.mp long
  cases shape
  rw [decodes_once.masked valid respells differs] at single
  obtain ⟨onceRest, singleRest, shape⟩ := Outcome.bind_eq_ok_iff.mp single
  cases shape
  rw [decodeFrom_escape valid] at short
  obtain ⟨c, -, short⟩ := Outcome.bind_eq_ok_iff.mp short
  obtain ⟨twiceRest, shortRest, shape⟩ := Outcome.bind_eq_ok_iff.mp short
  cases shape
  -- one pass leaves the six code points of the escape, two leave the one it encodes
  have bounded := (compared _ _ _ longRest shortRest singleRest).length_le
  refine .inl ⟨has, ?_⟩
  rw [List.length_cons, List.length_append, valid.length]
  omega

theorem long {escape rest : Text} (valid : IsLong escape)
    (unmasked : ¬StartsMasked (escape ++ rest)) (compared : Compared rest) :
    Compared (escape ++ rest) := by
  intro decoded twice once long short single
  have plain := not_starts_short unmasked (valid.not_starts_short rest) long
  rw [decodes_long.long valid] at long
  obtain ⟨c, decodedEscape, long⟩ := Outcome.bind_eq_ok_iff.mp long
  obtain ⟨decodedRest, longRest, shape⟩ := Outcome.bind_eq_ok_iff.mp long
  cases shape
  rw [decodes_once.long valid] at single
  obtain ⟨d, again, single⟩ := Outcome.bind_eq_ok_iff.mp single
  cases decodedEscape.symm.trans again
  obtain ⟨onceRest, singleRest, shape⟩ := Outcome.bind_eq_ok_iff.mp single
  cases shape
  rw [decodeFrom_plain plain] at short
  obtain ⟨twiceRest, shortRest, shape⟩ := Outcome.bind_eq_ok_iff.mp short
  cases shape
  obtain ⟨tail, rfl, free⟩ := valid.unicode.exists_tail
  exact (compared _ _ _ longRest shortRest singleRest).cons (hasMasked_step_iff free unmasked) c

theorem short {escape rest : Text} (valid : IsShort escape)
    (unmasked : ¬StartsMasked (escape ++ rest)) (compared : Compared rest) :
    Compared (escape ++ rest) := by
  intro decoded twice once long short single
  rw [decodeFrom_long_short valid] at long
  obtain ⟨decodedRest, longRest, shape⟩ := Outcome.bind_eq_ok_iff.mp long
  cases shape
  rw [decodeFrom_escape valid] at short
  obtain ⟨c, decodedEscape, short⟩ := Outcome.bind_eq_ok_iff.mp short
  obtain ⟨twiceRest, shortRest, shape⟩ := Outcome.bind_eq_ok_iff.mp short
  cases shape
  rw [decodeOnce_escape valid.unicode] at single
  obtain ⟨d, again, single⟩ := Outcome.bind_eq_ok_iff.mp single
  cases decodedEscape.symm.trans again
  obtain ⟨onceRest, singleRest, shape⟩ := Outcome.bind_eq_ok_iff.mp single
  cases shape
  obtain ⟨tail, rfl, free⟩ := valid.unicode.exists_tail
  exact (compared _ _ _ longRest shortRest singleRest).cons (hasMasked_step_iff free unmasked) c

theorem plain {c : CodePoint} {rest : Text} (uncounted : unicodeEscapeLength (c :: rest) = 0)
    (unmasked : ¬StartsMasked (c :: rest)) (compared : Compared rest) :
    Compared (c :: rest) := by
  intro decoded twice once long short single
  have plain := not_starts_short unmasked (not_starts_of_uncounted uncounted).2 long
  rw [decodes_long.plain uncounted] at long
  obtain ⟨decodedRest, longRest, shape⟩ := Outcome.bind_eq_ok_iff.mp long
  cases shape
  rw [decodes_once.plain uncounted] at single
  obtain ⟨onceRest, singleRest, shape⟩ := Outcome.bind_eq_ok_iff.mp single
  cases shape
  rw [decodeFrom_plain plain] at short
  obtain ⟨twiceRest, shortRest, shape⟩ := Outcome.bind_eq_ok_iff.mp short
  cases shape
  have step : HasMasked (c :: rest) ↔ HasMasked rest :=
    @hasMasked_step_iff c [] rest List.not_mem_nil unmasked
  exact (compared _ _ _ longRest shortRest singleRest).cons step c

end Compared

theorem compared_of_shorter {t : Text}
    (shorter : ∀ later : Text, later.length < t.length → Compared later) : Compared t := by
  by_cases startsMasked : StartsMasked t
  · obtain ⟨masked, rest, rfl, isMasked⟩ := startsMasked
    refine .masked isMasked (shorter rest ?_)
    obtain ⟨tail, rfl⟩ := isMasked.exists_tail
    simp only [List.length_append, List.length_cons]
    omega
  · cases starts t with
    | nil => exact .nil
    | long valid =>
        exact .long valid startsMasked (shorter _ (valid.unicode.length_lt rfl))
    | short valid =>
        exact .short valid startsMasked (shorter _ (valid.unicode.length_lt rfl))
    | plain uncounted => exact .plain uncounted startsMasked (shorter _ (by simp))

theorem compared (t : Text) : Compared t :=
  compared_of_shorter fun later _ => compared later
termination_by t.length

theorem decodeEscapes_eq_error_iff {t : Text} {fault : Fault} :
    decodeEscapes t = .error fault ↔
      ∃ escape, FirstBeyond t escape ∧ fault = .escapeRange escape :=
  (reports_decodeEscapes t).eq_error_iff.trans head?_rangeFaults_iff

theorem decodeOnce_eq_error_iff {t : Text} {fault : Fault} :
    decodeOnce t = .error fault ↔
      ∃ escape, FirstBeyond t escape ∧ fault = .escapeRange escape :=
  (reports_once t).eq_error_iff.trans head?_rangeFaults_iff

/-- Decoding fails exactly if an escape is beyond the last code point, and names the
first of them. It comes to the same as one pass over the text exactly if it fails,
or no escape is masked. -/
theorem decodeEscapes_beside_decodeOnce (t : Text) :
    (∀ fault, decodeEscapes t = .error fault ↔
      ∃ escape, FirstBeyond t escape ∧ fault = .escapeRange escape) ∧
    (decodeEscapes t = decodeOnce t ↔ (∃ escape, FirstBeyond t escape) ∨ ¬HasMasked t) := by
  refine ⟨fun fault => decodeEscapes_eq_error_iff, ?_⟩
  cases double : decodeEscapes t with
  | error fault =>
      have found := decodeEscapes_eq_error_iff.mp double
      have single := decodeOnce_eq_error_iff.mpr found
      obtain ⟨escape, first, -⟩ := found
      rw [single]
      exact ⟨fun _ => .inl ⟨escape, first⟩, fun _ => rfl⟩
  | ok twice =>
      have within : ¬∃ escape, FirstBeyond t escape := by
        intro found
        obtain ⟨escape, first⟩ := found
        cases double.symm.trans (decodeEscapes_eq_error_iff.mpr ⟨escape, first, rfl⟩)
      cases single : decodeOnce t with
      | error fault =>
          obtain ⟨escape, first, -⟩ := decodeOnce_eq_error_iff.mp single
          exact absurd ⟨escape, first⟩ within
      | ok once =>
          obtain ⟨decoded, long, short⟩ := Outcome.bind_eq_ok_iff.mp double
          rcases compared t decoded twice once long short single with
            ⟨has, shorter⟩ | ⟨hasNot, same⟩
          · constructor
            · intro same
              cases same
              exact absurd shorter (Nat.lt_irrefl _)
            · intro agrees
              exact absurd has (agrees.resolve_left within)
          · exact ⟨fun _ => .inr hasNot, fun _ => by rw [same]⟩

/-- A masked backslash is decoded, and with what follows it is decoded again. -/
theorem decodeEscapes_uncovers_backslash :
    decodeEscapes "\\U0000005Cu0041" = .ok ("A" : Text) ∧
      decodeOnce "\\U0000005Cu0041" = .ok ("\\u0041" : Text) := by
  decide

end Tailoring.Literal

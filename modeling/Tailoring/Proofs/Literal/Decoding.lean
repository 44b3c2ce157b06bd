import Tailoring.Literal.UnicodeEscape
import Tailoring.Proofs.Literal.Scan
import Tailoring.Proofs.Outcome
import Tailoring.Proofs.Text.Hex

/-!
# Decoding escapes

Decoding moves along a text escape by escape and code point by code point. It can
only fail at a long escape that encodes more than the last code point, and then
names the first of them. This holds of the long pass and of a single pass that
decodes long and short escapes alike; the short pass never fails.
-/

set_option autoImplicit false

namespace Tailoring

namespace Literal

/-! ## Escapes of one kind -/

/-- A backslash, the letter, and as many hexadecimal digits as are asked for. -/
def IsEscape (letter : CodePoint) (width : Nat) (escape : Text) : Prop :=
  ∃ digits, escape = backslash :: letter :: digits ∧ digits.length = width ∧
    ∀ c ∈ digits, c.isHexDigit = true

abbrev IsLong : Text → Prop :=
  IsEscape 'U' 8

abbrev IsShort : Text → Prop :=
  IsEscape 'u' 4

theorem IsEscape.length {letter : CodePoint} {width : Nat} {escape : Text}
    (valid : IsEscape letter width escape) : escape.length = width + 2 := by
  obtain ⟨digits, rfl, width, -⟩ := valid
  simp [width]

theorem IsEscape.starts {letter : CodePoint} {width : Nat} {escape : Text}
    (valid : IsEscape letter width escape) (rest : Text) :
    startsUnicodeEscape letter width (escape ++ rest) = true := by
  obtain ⟨digits, rfl, width, hexadecimal⟩ := valid
  exact startsUnicodeEscape_iff.mpr ⟨digits, rest, rfl, width, hexadecimal⟩

theorem exists_of_starts {letter : CodePoint} {width : Nat} {t : Text}
    (starts : startsUnicodeEscape letter width t = true) :
    ∃ escape rest, t = escape ++ rest ∧ IsEscape letter width escape := by
  obtain ⟨digits, rest, rfl, width, hexadecimal⟩ := startsUnicodeEscape_iff.mp starts
  exact ⟨backslash :: letter :: digits, rest, rfl, digits, rfl, width, hexadecimal⟩

theorem startsUnicodeEscape_of_ne {letter c : CodePoint} {width : Nat} (rest : Text)
    (other : c ≠ backslash) : startsUnicodeEscape letter width (c :: rest) = false := by
  rw [Bool.eq_false_iff]
  intro starts
  obtain ⟨digits, after, split, -⟩ := startsUnicodeEscape_iff.mp starts
  exact other (List.cons.inj split).1

theorem IsLong.unicode {escape : Text} (valid : IsLong escape) : IsUnicodeEscape escape := by
  obtain ⟨digits, rfl, width, hexadecimal⟩ := valid
  exact .long width hexadecimal

theorem IsShort.unicode {escape : Text} (valid : IsShort escape) : IsUnicodeEscape escape := by
  obtain ⟨digits, rfl, width, hexadecimal⟩ := valid
  exact .short width hexadecimal

theorem IsUnicodeEscape.exists_tail {escape : Text} (valid : IsUnicodeEscape escape) :
    ∃ tail, escape = backslash :: tail ∧ backslash ∉ tail := by
  obtain ⟨tail, rfl, free⟩ := valid.exists_free_tail
  refine ⟨tail, rfl, ?_⟩
  intro member
  exact absurd CodePoint.isReserved_backslash (by simp [free backslash member])

theorem not_starts_of_uncounted {t : Text} (uncounted : unicodeEscapeLength t = 0) :
    startsUnicodeEscape 'U' 8 t = false ∧ startsUnicodeEscape 'u' 4 t = false := by
  unfold unicodeEscapeLength at uncounted
  split at uncounted
  · cases uncounted
  · next notLong =>
      split at uncounted
      · cases uncounted
      · next notShort => exact ⟨by simpa using notLong, by simpa using notShort⟩

/-- What a text starts with: an escape, or a code point that starts none. -/
inductive Starts : Text → Prop where
  | nil : Starts []
  | long {escape rest} : IsLong escape → Starts (escape ++ rest)
  | short {escape rest} : IsShort escape → Starts (escape ++ rest)
  | plain {c rest} : unicodeEscapeLength (c :: rest) = 0 → Starts (c :: rest)

theorem starts (t : Text) : Starts t := by
  by_cases counted : unicodeEscapeLength t = 0
  · cases t with
    | nil => exact .nil
    | cons c rest => exact .plain counted
  · obtain ⟨escape, rest, rfl, valid⟩ := exists_of_unicodeEscapeLength counted
    cases valid with
    | long width hexadecimal => exact .long ⟨_, rfl, width, hexadecimal⟩
    | short width hexadecimal => exact .short ⟨_, rfl, width, hexadecimal⟩

/-- The induction along escapes and the code points between them. -/
@[elab_as_elim]
theorem escape_induction {motive : Text → Prop} (nil : motive [])
    (long : ∀ escape rest, IsLong escape → motive rest → motive (escape ++ rest))
    (short : ∀ escape rest, IsShort escape → motive rest → motive (escape ++ rest))
    (plain : ∀ c rest, unicodeEscapeLength (c :: rest) = 0 → motive rest → motive (c :: rest))
    (t : Text) : motive t := by
  cases starts t with
  | nil => exact nil
  | @long escape rest valid =>
      have present := List.length_pos_of_ne_nil valid.unicode.ne_nil
      exact long escape rest valid (escape_induction nil long short plain rest)
  | @short escape rest valid =>
      have present := List.length_pos_of_ne_nil valid.unicode.ne_nil
      exact short escape rest valid (escape_induction nil long short plain rest)
  | @plain c rest uncounted =>
      exact plain c rest uncounted (escape_induction nil long short plain rest)
termination_by t.length

/-! ## One pass for escapes of one kind -/

theorem decodeFrom_passing (letter : CodePoint) (width count : Nat) (t : Text) :
    decodeFrom letter width count t = decodeFrom letter width 0 (t.drop count) := by
  induction t generalizing count with
  | nil => cases count <;> rfl
  | cons c rest ih =>
      cases count with
      | zero => rfl
      | succ count =>
          rw [decodeFrom, ih count]
          rfl

theorem decodeFrom_escape {letter : CodePoint} {width : Nat} {escape : Text}
    (valid : IsEscape letter width escape) (rest : Text) :
    decodeFrom letter width 0 (escape ++ rest) = do
      let decoded ← decodeEscape escape
      let decodedRest ← decodeFrom letter width 0 rest
      return decoded :: decodedRest := by
  have starts := valid.starts rest
  have length := valid.length
  cases escape with
  | nil => cases length
  | cons c escape =>
      have taken : (c :: (escape ++ rest)).take (width + 2) = c :: escape := by
        rw [← List.cons_append]
        exact List.take_left' length
      have dropped : (escape ++ rest).drop (width + 1) = rest :=
        List.drop_left' (by simpa using length)
      rw [List.cons_append] at starts ⊢
      rw [decodeFrom, if_pos starts, taken, decodeFrom_passing, dropped]

theorem decodeFrom_plain {letter c : CodePoint} {width : Nat} {rest : Text}
    (plain : startsUnicodeEscape letter width (c :: rest) = false) :
    decodeFrom letter width 0 (c :: rest) = do
      let decodedRest ← decodeFrom letter width 0 rest
      return c :: decodedRest := by
  rw [decodeFrom, plain]
  rfl

/-! ## One pass for all escapes -/

/-- Replaces all escapes of a text from left to right, long and short ones, given how
many code points of an escape are still to be passed over. -/
def decodeOnceFrom (passing : Nat) : Text → Except Fault Text
  | [] => .ok []
  | c :: rest =>
      match passing with
      | remaining + 1 => decodeOnceFrom remaining rest
      | 0 =>
          match unicodeEscapeLength (c :: rest) with
          | remaining + 1 => do
              let decoded ← decodeEscape ((c :: rest).take (remaining + 1))
              let decodedRest ← decodeOnceFrom remaining rest
              return decoded :: decodedRest
          | 0 => do
              let decodedRest ← decodeOnceFrom 0 rest
              return c :: decodedRest

/-- Replaces every Unicode escape of a text by the code point that it encodes, and
copies everything else. -/
def decodeOnce (t : Text) : Except Fault Text :=
  decodeOnceFrom 0 t

theorem decodeOnceFrom_passing (count : Nat) (t : Text) :
    decodeOnceFrom count t = decodeOnce (t.drop count) := by
  induction t generalizing count with
  | nil => cases count <;> rfl
  | cons c rest ih =>
      cases count with
      | zero => rfl
      | succ count =>
          rw [decodeOnceFrom, ih count]
          rfl

theorem decodeOnce_escape {escape : Text} (valid : IsUnicodeEscape escape) (rest : Text) :
    decodeOnce (escape ++ rest) = do
      let decoded ← decodeEscape escape
      let decodedRest ← decodeOnce rest
      return decoded :: decodedRest := by
  have counted := valid.length_append rest
  cases escape with
  | nil => exact absurd rfl valid.ne_nil
  | cons c escape =>
      rw [List.cons_append, List.length_cons] at counted
      have taken : (c :: (escape ++ rest)).take (escape.length + 1) = c :: escape := by simp
      rw [List.cons_append, decodeOnce, decodeOnceFrom]
      simp only [counted]
      rw [taken, decodeOnceFrom_passing, List.drop_left]

theorem decodeOnce_plain {c : CodePoint} {rest : Text}
    (plain : unicodeEscapeLength (c :: rest) = 0) :
    decodeOnce (c :: rest) = do
      let decodedRest ← decodeOnce rest
      return c :: decodedRest := by
  rw [decodeOnce, decodeOnceFrom]
  simp only [plain]
  rfl

/-- A pass that decodes long escapes and copies what starts no escape. -/
structure Decodes (pass : Text → Except Fault Text) : Prop where
  long : ∀ {escape : Text}, IsLong escape → ∀ rest : Text, pass (escape ++ rest) = do
    let decoded ← decodeEscape escape
    let decodedRest ← pass rest
    return decoded :: decodedRest
  plain : ∀ {c : CodePoint} {rest : Text}, unicodeEscapeLength (c :: rest) = 0 →
    pass (c :: rest) = do
      let decodedRest ← pass rest
      return c :: decodedRest

theorem decodes_long : Decodes (decodeFrom 'U' 8 0) where
  long valid rest := decodeFrom_escape valid rest
  plain uncounted := decodeFrom_plain (not_starts_of_uncounted uncounted).1

theorem decodes_once : Decodes decodeOnce where
  long valid rest := decodeOnce_escape valid.unicode rest
  plain uncounted := decodeOnce_plain uncounted

theorem Decodes.copied_append {pass : Text → Except Fault Text} (decodes : Decodes pass)
    {front : Text} (free : backslash ∉ front) (rest : Text) :
    pass (front ++ rest) = do
      let decodedRest ← pass rest
      return front ++ decodedRest := by
  induction front with
  | nil =>
      rw [List.nil_append]
      cases pass rest <;> rfl
  | cons c front ih =>
      have other : c ≠ backslash := (List.ne_of_not_mem_cons free).symm
      rw [List.cons_append, decodes.plain (unicodeEscapeLength_of_ne other), ih (List.not_mem_of_not_mem_cons free)]
      cases pass rest <;> rfl

/-! ## What cannot be decoded -/

/-- The escape encodes more than the last code point. -/
def Beyond (escape : Text) : Prop :=
  IsLong escape ∧ ∃ value, Hex.value? (escape.drop 2) = some value ∧ 0x10FFFF < value

/-- Of the escapes of a text beyond the last code point, this one starts first. -/
def FirstBeyond (t escape : Text) : Prop :=
  ∃ before after, t = before ++ escape ++ after ∧ Beyond escape ∧
    ∀ before' escape' after', t = before' ++ escape' ++ after' → Beyond escape' →
      before.length ≤ before'.length

theorem exists_decodeEscape {letter : CodePoint} {width : Nat} {escape : Text}
    (valid : IsEscape letter width escape) :
    ∃ value, Hex.value? (escape.drop 2) = some value ∧ value < 16 ^ width ∧
      decodeEscape escape =
        if inRange : value < 0x110000 then .ok ⟨value, inRange⟩
        else .error (.escapeRange escape) := by
  obtain ⟨digits, rfl, rfl, hexadecimal⟩ := valid
  obtain ⟨value, read, bounded⟩ := Hex.exists_value?_lt hexadecimal
  refine ⟨value, read, bounded, ?_⟩
  unfold decodeEscape
  simp only [List.drop_succ_cons, List.drop_zero, read]

theorem exists_decodeEscape_short {escape : Text} (valid : IsShort escape) :
    ∃ c, decodeEscape escape = .ok c := by
  obtain ⟨value, -, bounded, decoded⟩ := exists_decodeEscape valid
  rw [dif_pos (by omega)] at decoded
  exact ⟨_, decoded⟩

/-- The faults of a long escape: one if it is beyond the last code point. -/
def escapeFaults (escape : Text) : List Fault :=
  match decodeEscape escape with
  | .ok _ => []
  | .error fault => [fault]

theorem reports_decodeEscape (escape : Text) :
    Outcome.Reports (escapeFaults escape) (decodeEscape escape) := by
  unfold escapeFaults
  cases decodeEscape escape with
  | ok c => exact .success
  | error fault => exact .failure

theorem escapeFaults_of_beyond {escape : Text} (beyond : Beyond escape) :
    escapeFaults escape = [.escapeRange escape] := by
  obtain ⟨valid, value, read, above⟩ := beyond
  obtain ⟨value', read', -, decoded⟩ := exists_decodeEscape valid
  cases read.symm.trans read'
  rw [dif_neg (by omega)] at decoded
  simp [escapeFaults, decoded]

theorem escapeFaults_of_not_beyond {escape : Text} (valid : IsLong escape)
    (within : ¬Beyond escape) : escapeFaults escape = [] := by
  obtain ⟨value, read, -, decoded⟩ := exists_decodeEscape valid
  have small : value < 0x110000 := by
    by_contra large
    exact within ⟨valid, value, read, by omega⟩
  rw [dif_pos small] at decoded
  simp [escapeFaults, decoded]

/-- The faults of the long escapes of a text, in order. -/
def rangeFaults : Text → List Fault
  | [] => []
  | c :: rest =>
      (if startsUnicodeEscape 'U' 8 (c :: rest) then escapeFaults ((c :: rest).take 10) else []) ++
        rangeFaults rest

theorem rangeFaults_plain {c : CodePoint} {rest : Text}
    (plain : startsUnicodeEscape 'U' 8 (c :: rest) = false) :
    rangeFaults (c :: rest) = rangeFaults rest := by
  rw [rangeFaults, plain]
  rfl

theorem rangeFaults_copied {front : Text} (free : backslash ∉ front) (rest : Text) :
    rangeFaults (front ++ rest) = rangeFaults rest := by
  induction front with
  | nil => rfl
  | cons c front ih =>
      have other : c ≠ backslash := (List.ne_of_not_mem_cons free).symm
      rw [List.cons_append, rangeFaults_plain (startsUnicodeEscape_of_ne _ other),
        ih (List.not_mem_of_not_mem_cons free)]

theorem rangeFaults_long {escape : Text} (valid : IsLong escape) (rest : Text) :
    rangeFaults (escape ++ rest) = escapeFaults escape ++ rangeFaults rest := by
  have starts := valid.starts rest
  have taken : (escape ++ rest).take 10 = escape := List.take_left' valid.length
  obtain ⟨tail, rfl, free⟩ := valid.unicode.exists_tail
  rw [List.cons_append] at starts taken ⊢
  rw [rangeFaults, if_pos starts, taken, rangeFaults_copied free]

theorem IsShort.not_starts_long {escape : Text} (valid : IsShort escape) (rest : Text) :
    startsUnicodeEscape 'U' 8 (escape ++ rest) = false := by
  obtain ⟨digits, rfl, -⟩ := valid
  have different : (('u' : CodePoint) == ('U' : CodePoint)) = false := by decide
  simp [startsUnicodeEscape, different]

theorem decodeFrom_long_short {escape : Text} (valid : IsShort escape) (rest : Text) :
    decodeFrom 'U' 8 0 (escape ++ rest) = do
      let decodedRest ← decodeFrom 'U' 8 0 rest
      return escape ++ decodedRest := by
  have plain := valid.not_starts_long rest
  obtain ⟨tail, rfl, free⟩ := valid.unicode.exists_tail
  rw [List.cons_append] at plain ⊢
  rw [decodeFrom_plain plain, decodes_long.copied_append free]
  cases decodeFrom 'U' 8 0 rest <;> rfl

theorem rangeFaults_short {escape : Text} (valid : IsShort escape) (rest : Text) :
    rangeFaults (escape ++ rest) = rangeFaults rest := by
  have plain := valid.not_starts_long rest
  obtain ⟨tail, rfl, free⟩ := valid.unicode.exists_tail
  rw [List.cons_append] at plain ⊢
  rw [rangeFaults_plain plain, rangeFaults_copied free]

theorem reports_long (t : Text) : Outcome.Reports (rangeFaults t) (decodeFrom 'U' 8 0 t) := by
  induction t using escape_induction with
  | nil => exact .success
  | long escape rest valid ih =>
      rw [rangeFaults_long valid, decodes_long.long valid]
      exact (reports_decodeEscape escape).bind fun _ => ih.bind_success fun _ => .success
  | short escape rest valid ih =>
      rw [rangeFaults_short valid, decodeFrom_long_short valid]
      exact ih.bind_success fun _ => .success
  | plain c rest uncounted ih =>
      rw [rangeFaults_plain (not_starts_of_uncounted uncounted).1, decodes_long.plain uncounted]
      exact ih.bind_success fun _ => .success

theorem reports_once (t : Text) : Outcome.Reports (rangeFaults t) (decodeOnce t) := by
  induction t using escape_induction with
  | nil => exact .success
  | long escape rest valid ih =>
      rw [rangeFaults_long valid, decodes_once.long valid]
      exact (reports_decodeEscape escape).bind fun _ => ih.bind_success fun _ => .success
  | short escape rest valid ih =>
      obtain ⟨c, decoded⟩ := exists_decodeEscape_short valid
      rw [rangeFaults_short valid, decodeOnce_escape valid.unicode, decoded]
      exact ih.bind_success fun _ => .success
  | plain c rest uncounted ih =>
      rw [rangeFaults_plain (not_starts_of_uncounted uncounted).1, decodeOnce_plain uncounted]
      exact ih.bind_success fun _ => .success

theorem exists_decodeFrom_short (passing : Nat) (t : Text) :
    ∃ decoded, decodeFrom 'u' 4 passing t = .ok decoded := by
  induction t generalizing passing with
  | nil => exact ⟨[], rfl⟩
  | cons c rest ih =>
      cases passing with
      | succ passing => exact ih passing
      | zero =>
          cases startsHere : startsUnicodeEscape 'u' 4 (c :: rest) with
          | false =>
              obtain ⟨decoded, decodedRest⟩ := ih 0
              rw [decodeFrom_plain startsHere, decodedRest]
              exact ⟨_, rfl⟩
          | true =>
              obtain ⟨escape, after, split, valid⟩ := exists_of_starts startsHere
              obtain ⟨d, decodedEscape⟩ := exists_decodeEscape_short valid
              obtain ⟨decoded, decodedRest⟩ := ih 5
              have passed : rest.drop 5 = after := by
                have dropped := congrArg (List.drop 6) split
                rw [List.drop_left' valid.length] at dropped
                exact dropped
              rw [decodeFrom_passing, passed] at decodedRest
              rw [split, decodeFrom_escape valid, decodedEscape, decodedRest]
              exact ⟨_, rfl⟩

theorem reports_decodeEscapes (t : Text) :
    Outcome.Reports (rangeFaults t) (decodeEscapes t) := by
  refine (reports_long t).bind_success fun decoded => ?_
  obtain ⟨result, short⟩ := exists_decodeFrom_short 0 decoded
  rw [short]
  exact .success

theorem firstBeyond_here {escape rest : Text} (beyond : Beyond escape) :
    FirstBeyond (escape ++ rest) escape :=
  ⟨[], rest, rfl, beyond, fun _ _ _ _ _ => Nat.zero_le _⟩

theorem FirstBeyond.eq_of_starts {escape first rest : Text} (beyond : Beyond escape)
    (found : FirstBeyond (escape ++ rest) first) : first = escape := by
  obtain ⟨before, after, split, beyondFirst, least⟩ := found
  have start : before = [] :=
    List.eq_nil_of_length_eq_zero (Nat.le_zero.mp (least [] escape rest rfl beyond))
  rw [start, List.nil_append] at split
  exact (List.append_inj split (beyond.1.length.trans beyondFirst.1.length.symm)).1.symm

theorem firstBeyond_cons_iff {c : CodePoint} {rest escape : Text}
    (within : ∀ first after, c :: rest = first ++ after → ¬Beyond first) :
    FirstBeyond (c :: rest) escape ↔ FirstBeyond rest escape := by
  constructor
  · intro found
    obtain ⟨before, after, split, beyond, least⟩ := found
    cases before with
    | nil => exact absurd beyond (within escape after split)
    | cons d before =>
        refine ⟨before, after, (List.cons.inj split).2, beyond, ?_⟩
        intro before' escape' after' split' beyond'
        have bound := least (c :: before') escape' after' (by rw [split']; rfl) beyond'
        exact Nat.le_of_succ_le_succ bound
  · intro found
    obtain ⟨before, after, split, beyond, least⟩ := found
    refine ⟨c :: before, after, by rw [split]; rfl, beyond, ?_⟩
    intro before' escape' after' split' beyond'
    cases before' with
    | nil => exact absurd beyond' (within escape' after' split')
    | cons d before' =>
        exact Nat.succ_le_succ (least before' escape' after' (List.cons.inj split').2 beyond')

/-- The first fault is that of the first escape beyond the last code point. -/
theorem head?_rangeFaults_iff {t : Text} {fault : Fault} :
    (rangeFaults t).head? = some fault ↔
      ∃ escape, FirstBeyond t escape ∧ fault = .escapeRange escape := by
  induction t with
  | nil =>
      constructor
      · intro first
        cases first
      · intro found
        obtain ⟨escape, ⟨before, after, split, beyond, -⟩, -⟩ := found
        have empty : before ++ escape = [] := (List.append_eq_nil_iff.mp split.symm).1
        exact absurd (List.append_eq_nil_iff.mp empty).2 beyond.1.unicode.ne_nil
  | cons c rest ih =>
      by_cases startsBeyond : ∃ escape after, c :: rest = escape ++ after ∧ Beyond escape
      · obtain ⟨escape, after, split, beyond⟩ := startsBeyond
        rw [split, rangeFaults_long beyond.1, escapeFaults_of_beyond beyond]
        constructor
        · intro first
          cases first
          exact ⟨escape, firstBeyond_here beyond, rfl⟩
        · intro found
          obtain ⟨first, found, rfl⟩ := found
          rw [found.eq_of_starts beyond]
          rfl
      · have within : ∀ first after, c :: rest = first ++ after → ¬Beyond first := by
          intro first after split beyond
          exact startsBeyond ⟨first, after, split, beyond⟩
        have same : rangeFaults (c :: rest) = rangeFaults rest := by
          cases startsHere : startsUnicodeEscape 'U' 8 (c :: rest) with
          | false => exact rangeFaults_plain startsHere
          | true =>
              obtain ⟨escape, after, split, valid⟩ := exists_of_starts startsHere
              have taken : (c :: rest).take 10 = escape := by
                rw [split]
                exact List.take_left' valid.length
              rw [rangeFaults, if_pos startsHere, taken,
                escapeFaults_of_not_beyond valid (within escape after split), List.nil_append]
        simp only [same, ih, firstBeyond_cons_iff within]

end Literal

end Tailoring

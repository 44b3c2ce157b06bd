import Tailoring.Proofs.SimpleRules.Brackets

/-!
# Groups in groups

A bracket opens where the last token starts, which is after the last bracket that
has closed, provided that something has been written since. A sequence without
data closes a bracket and writes nothing: the next tertiary difference then opens
a bracket within the group that has just been closed. Brackets are deep exactly
after such items, and alternate in all other simple rules.
-/

set_option autoImplicit false

namespace Tailoring

namespace SimpleRules

/-- What an item does to the brackets of a draft: it opens one, unless one is open; or
it closes the one that is open and writes nothing; or it closes it and writes a
separator and more. -/
inductive Effect where
  | groups
  | silent
  | separates
  deriving DecidableEq

/-- A tertiary item groups. A primary or secondary one separates, unless it is a
sequence without data. -/
def Effect.of (item : Item) : Effect :=
  match item.role? with
  | some (.relation .tertiary) | some (.sequence .tertiary) => .groups
  | some (.sequence _) => if item.data = .ok [] then .silent else .separates
  | _ => .separates

/-- A group is followed by sequences without data, and these by a tertiary item. -/
def Reopens (effects : List Effect) : Prop :=
  ∃ before count after,
    effects = before ++ [.groups] ++ List.replicate (count + 1) .silent ++ [.groups] ++ after

/-! ## Stages of a draft -/

/-- How the brackets of a draft stand: all are closed, and a token has begun since; one
is open; one has just been closed; or two have been open at once. -/
inductive Stage where
  | settled
  | opened
  | closed
  | nested
  deriving DecidableEq

namespace Stage

def next : Stage → Effect → Stage
  | nested, _ => nested
  | settled, .groups => opened
  | settled, _ => settled
  | opened, .groups => opened
  | closed, .groups => nested
  | _, .silent => closed
  | _, .separates => settled

theorem next_groups (stage : Stage) :
    stage.next .groups = opened ∨ stage.next .groups = nested := by
  cases stage with
  | settled => exact .inl rfl
  | opened => exact .inl rfl
  | closed => exact .inr rfl
  | nested => exact .inr rfl

theorem next_separates {stage : Stage} (flat : stage ≠ nested) :
    stage.next .separates = settled := by
  cases stage with
  | settled => rfl
  | opened => rfl
  | closed => rfl
  | nested => exact absurd rfl flat

/-- What has been read when a stage is reached. -/
inductive Trace : Stage → List Effect → Prop where
  | settled {read} : Trace settled read
  | opened {before} : Trace opened (before ++ [.groups])
  | closed {before count} :
      Trace closed (before ++ [.groups] ++ List.replicate (count + 1) .silent)
  | nested {read} : Reopens read → Trace nested read

theorem Trace.next {stage : Stage} {read : List Effect} (trace : Trace stage read)
    (effect : Effect) : Trace (stage.next effect) (read ++ [effect]) := by
  cases trace with
  | settled =>
      cases effect with
      | groups => exact .opened
      | silent => exact .settled
      | separates => exact .settled
  | @opened before =>
      cases effect with
      | groups => exact .opened
      | silent => exact @Trace.closed before 0
      | separates => exact .settled
  | @closed before count =>
      cases effect with
      | groups => exact .nested ⟨before, count, [], by simp⟩
      | silent =>
          rw [List.append_assoc, ← List.replicate_succ']
          exact .closed
      | separates => exact .settled
  | nested reopens =>
      obtain ⟨before, count, after, rfl⟩ := reopens
      exact .nested ⟨before, count, after ++ [effect], by simp⟩

theorem Trace.foldl_next {stage : Stage} {read : List Effect} (trace : Trace stage read)
    (effects : List Effect) : Trace (effects.foldl Stage.next stage) (read ++ effects) := by
  induction effects generalizing stage read with
  | nil => simpa using trace
  | cons effect effects ih => simpa using ih (trace.next effect)

theorem foldl_nested (effects : List Effect) :
    effects.foldl next nested = nested := by
  induction effects with
  | nil => rfl
  | cons effect effects ih => exact ih

theorem foldl_silent_closed (count : Nat) :
    (List.replicate count Effect.silent).foldl next closed = closed := by
  induction count with
  | zero => rfl
  | succ count ih => exact ih

/-- A group that is closed in silence and opened again nests, whatever came before. -/
theorem foldl_reopening (stage : Stage) (count : Nat) :
    ([Effect.groups] ++ List.replicate (count + 1) Effect.silent ++ [Effect.groups]).foldl next
      stage = nested := by
  simp only [List.foldl_append, List.foldl_cons, List.foldl_nil]
  rcases stage.next_groups with isOpened | isNested
  · have silent : next opened .silent = closed := rfl
    rw [isOpened, List.replicate_succ, List.foldl_cons, silent, foldl_silent_closed]
    rfl
  · rw [isNested, foldl_nested]
    rfl

theorem foldl_next_eq_nested_iff {effects : List Effect} :
    effects.foldl next settled = nested ↔ Reopens effects := by
  constructor
  · intro reached
    have trace := (@Trace.settled []).foldl_next effects
    rw [reached] at trace
    cases trace with
    | nested reopens => exact reopens
  · intro reopens
    obtain ⟨before, count, after, rfl⟩ := reopens
    rw [List.foldl_append, List.append_assoc, List.append_assoc, List.foldl_append,
      ← List.append_assoc, foldl_reopening, foldl_nested]

end Stage

instance (effects : List Effect) : Decidable (Reopens effects) :=
  decidable_of_iff _ Stage.foldl_next_eq_nested_iff

/-! ## Drafting -/

namespace Draft

inductive Reaches (newline : Text) : Stage → Draft → Prop where
  -- the next bracket opens before the last token, which must have none then
  | settled {text} : Alternates (brackets text) →
      brackets (text.drop (tokenStart newline text)) = [] →
      Reaches newline .settled { text, inGroup := false }
  | opened {text done} : Alternates done → brackets text = done ++ [opening] →
      Reaches newline .opened { text, inGroup := true }
  | closed {text done} : Alternates done → brackets text = done ++ [opening] →
      Reaches newline .closed { text := text ++ [closing], inGroup := false }
  | nested {draft} : Deep (brackets draft.text) → Reaches newline .nested draft

/-- What an effect does to a draft. -/
inductive Moves (newline : Text) : Effect → Draft → Draft → Prop where
  | groups {draft added} : brackets added = [] →
      Moves newline .groups draft ((draft.beginGroup newline).append added)
  | silent {draft} : Moves newline .silent draft draft.endGroup
  | separates {draft separator added} : separator = newline ∨ separator = [space] →
      brackets added = [] →
      Moves newline .separates draft (draft.endGroup.append (separator ++ added))

theorem settled_of_separates {newline separator added : Text} {draft : Draft}
    (lineBreak : LineBreak newline) (known : separator = newline ∨ separator = [space])
    (free : brackets added = []) (closed : draft.inGroup = false)
    (alternates : Alternates (brackets draft.text)) :
    Reaches newline .settled (draft.append (separator ++ added)) := by
  obtain ⟨text, inGroup⟩ := draft
  cases closed
  apply Reaches.settled
  · simpa [brackets_separator lineBreak known, free] using alternates
  · have beyond := le_tokenStart known text added
    have written : text ++ (separator ++ added) = text ++ separator ++ added := by
      rw [List.append_assoc]
    rw [written, List.drop_append, List.drop_eq_nil_of_le beyond, List.nil_append]
    exact brackets_drop_eq_nil free _

theorem alternates_of_closes {text done : Text} (alternates : Alternates done)
    (shape : brackets text = done ++ [opening]) : Alternates (brackets (text ++ [closing])) := by
  have closed : brackets (text ++ [closing]) = done ++ [opening] ++ [closing] := by
    rw [brackets_append, shape]
    rfl
  rw [closed]
  exact alternates.pair_after

theorem deep_endGroup {draft : Draft} (deep : Deep (brackets draft.text)) :
    Deep (brackets draft.endGroup.text) := by
  unfold endGroup
  split
  · rw [brackets_append]
    exact deep.append _
  · exact deep

theorem brackets_beginGroup (newline text : Text) :
    brackets (beginGroup newline { text, inGroup := false }).text =
      brackets (text.take (tokenStart newline text)) ++ [opening] ++
        brackets (text.drop (tokenStart newline text)) := by
  simp only [beginGroup, Bool.false_eq_true, if_false, brackets_append]
  rfl

namespace Reaches

variable {newline : Text} {stage : Stage} {draft : Draft}

/-- Unless brackets are deep they alternate, once the last of them is closed. -/
theorem endGroup (reaches : Reaches newline stage draft) (flat : stage ≠ .nested) :
    draft.endGroup.inGroup = false ∧ Alternates (brackets draft.endGroup.text) := by
  cases reaches with
  | settled alternates => exact ⟨rfl, alternates⟩
  | opened alternates shape => exact ⟨rfl, alternates_of_closes alternates shape⟩
  | closed alternates shape => exact ⟨rfl, alternates_of_closes alternates shape⟩
  | nested => exact absurd rfl flat

theorem brackets_endGroup (reaches : Reaches newline stage draft) :
    (Alternates (brackets draft.endGroup.text) ↔ ¬stage = .nested) ∧
      (Deep (brackets draft.endGroup.text) ↔ stage = .nested) := by
  by_cases isNested : stage = .nested
  · cases isNested
    cases reaches with
    | nested deep =>
        have deepEnd := deep_endGroup deep
        exact ⟨⟨fun alternates => absurd deepEnd alternates.not_deep, absurd rfl⟩,
          ⟨fun _ => rfl, fun _ => deepEnd⟩⟩
  · have alternates := (reaches.endGroup isNested).2
    exact ⟨⟨fun _ => isNested, fun _ => alternates⟩,
      ⟨fun deep => absurd deep alternates.not_deep, fun nested => absurd nested isNested⟩⟩

theorem append (reaches : Reaches newline stage draft)
    (grouping : stage = .opened ∨ stage = .nested) {added : Text} (free : brackets added = []) :
    Reaches newline stage (draft.append added) := by
  have same : brackets (draft.append added).text = brackets draft.text := by
    simp [Draft.append, free]
  cases reaches with
  | settled => simp at grouping
  | opened alternates shape => exact .opened alternates (same.trans shape)
  | closed => simp at grouping
  | nested deep => exact .nested (same ▸ deep)

theorem beginGroup (lineBreak : LineBreak newline) (reaches : Reaches newline stage draft) :
    Reaches newline (stage.next .groups) (draft.beginGroup newline) := by
  cases reaches with
  | @settled text alternates free =>
      have begun := brackets_beginGroup newline text
      rw [free, List.append_nil] at begun
      have before := brackets_halves text (tokenStart newline text)
      rw [free, List.append_nil] at before
      exact .opened alternates (begun.trans (by rw [before]))
  | opened alternates shape => exact .opened alternates shape
  | @closed text done alternates shape =>
      have begun := brackets_beginGroup newline (text ++ [closing])
      -- a closing bracket separates no tokens, so the new one opens before it
      have inside := tokenStart_le lineBreak text
      rw [List.take_append_of_le_length inside, List.drop_append_of_le_length inside,
        brackets_append, ← List.append_assoc] at begun
      refine .nested ?_
      rw [begun]
      exact deep_of_reopened alternates (shape.symm.trans (brackets_halves text _).symm)
  | nested deep =>
      obtain ⟨text, inGroup⟩ := draft
      refine .nested ?_
      cases inGroup with
      | true => exact deep
      | false =>
          rw [brackets_beginGroup newline text]
          apply Deep.insert
          rw [brackets_halves]
          exact deep

theorem step (lineBreak : LineBreak newline) (reaches : Reaches newline stage draft)
    {effect : Effect} {draft' : Draft} (moves : Moves newline effect draft draft') :
    Reaches newline (stage.next effect) draft' := by
  cases moves with
  | groups free => exact (reaches.beginGroup lineBreak).append stage.next_groups free
  | silent =>
      cases reaches with
      | settled alternates free => exact .settled alternates free
      | opened alternates shape => exact .closed alternates shape
      | closed alternates shape => exact .closed alternates shape
      | nested deep => exact .nested (deep_endGroup deep)
  | separates known free =>
      by_cases isNested : stage = .nested
      · cases isNested
        cases reaches with
        | nested deep =>
            refine .nested ?_
            rw [Draft.append, brackets_append]
            exact (deep_endGroup deep).append _
      · obtain ⟨closed, alternates⟩ := reaches.endGroup isNested
        rw [Stage.next_separates isNested]
        exact settled_of_separates lineBreak known free closed alternates

end Reaches

end Draft

/-! ## Items -/

theorem Effect.of_relation {item : Item} {strength : Strength}
    (role : item.role? = some (.relation strength)) :
    Effect.of item = if strength = .tertiary then .groups else .separates := by
  cases strength <;> simp [Effect.of, role]

theorem Effect.of_sequence {item : Item} {strength : Strength} {data : Text}
    (role : item.role? = some (.sequence strength)) (read : item.data = .ok data) :
    Effect.of item =
      if strength = .tertiary then .groups else if data = [] then .silent else .separates := by
  cases strength <;> simp [Effect.of, role, read]

theorem brackets_separator? {newline separator : Text} {strength : Strength}
    (lineBreak : LineBreak newline) (separated : separator? newline strength = some separator) :
    brackets separator = [] := by
  apply brackets_separator lineBreak
  cases strength with
  | primary => exact .inl (Option.some.inj separated).symm
  | secondary => exact .inr (Option.some.inj separated).symm
  | tertiary => exact .inr (Option.some.inj separated).symm
  | identical => cases separated

theorem brackets_flatMap_scalars {separator data : Text} (separatorFree : brackets separator = [])
    (free : brackets data = []) :
    brackets ((Text.scalars data).flatMap fun s => separator ++ s.text) = [] := by
  rw [brackets, List.filter_eq_nil_iff] at separatorFree free ⊢
  intro c member
  obtain ⟨s, memberScalars, member⟩ := List.mem_flatMap.mp member
  rcases List.mem_append.mp member with member | member
  · exact separatorFree c member
  · exact free c (Text.mem_of_mem_scalars memberScalars member)

theorem append_moves {newline separator more : Text} {strength : Strength}
    (lineBreak : LineBreak newline) (separated : separator? newline strength = some separator)
    (free : brackets more = []) (draft : Draft) :
    Draft.Moves newline (if strength = .tertiary then .groups else .separates) draft
      ((prepare newline strength draft).append (separator ++ more)) := by
  have separatorFree := brackets_separator? lineBreak separated
  cases strength with
  | primary => exact .separates (.inl (Option.some.inj separated).symm) free
  | secondary => exact .separates (.inr (Option.some.inj separated).symm) free
  | tertiary =>
      refine .groups ?_
      rw [brackets_append, separatorFree, free]
      rfl
  | identical => cases separated

theorem appendEach_moves {newline separator data : Text} {strength : Strength}
    (lineBreak : LineBreak newline) (separated : separator? newline strength = some separator)
    (free : brackets data = []) (draft : Draft) :
    Draft.Moves newline
      (if strength = .tertiary then .groups else if data = [] then .silent else .separates) draft
      ((prepare newline strength draft).appendEach separator data) := by
  have writtenFree := brackets_flatMap_scalars (brackets_separator? lineBreak separated) free
  by_cases tertiary : strength = .tertiary
  · cases tertiary
    exact .groups writtenFree
  · rw [if_neg tertiary]
    by_cases empty : data = []
    · have unwritten : (prepare newline strength draft).appendEach separator data =
          draft.endGroup := by
        cases strength with
        | tertiary => exact absurd rfl tertiary
        | _ => simp [Draft.appendEach, Draft.append, empty, Text.scalars, prepare]
      rw [unwritten, if_pos empty]
      exact .silent
    · obtain ⟨s, rest, scalars⟩ := List.exists_cons_of_ne_nil (Text.scalars_ne_nil empty)
      rw [scalars, List.flatMap_cons, List.append_assoc, brackets_append] at writtenFree
      have moreFree := (List.append_eq_nil_iff.mp writtenFree).2
      have moves := append_moves lineBreak separated moreFree draft
      rw [if_neg tertiary] at moves
      rw [if_neg empty, Draft.appendEach, scalars, List.flatMap_cons, List.append_assoc]
      exact moves

theorem addItem_moves {newline : Text} {item : Item} {draft draft' : Draft}
    (lineBreak : LineBreak newline) (free : ∀ data, item.data = .ok data → brackets data = [])
    (added : addItem newline draft item = .ok (some draft')) :
    Draft.Moves newline (.of item) draft draft' := by
  unfold addItem at added
  split at added
  · next strength role =>
      split at added
      · next separator separated =>
          obtain ⟨data, read, drafted⟩ := Outcome.map_eq_ok_iff.mp added
          cases drafted
          rw [Effect.of_relation role]
          exact append_moves lineBreak separated (free data read) draft
      · cases added
  · next strength role =>
      split at added
      · next separator separated =>
          obtain ⟨data, read, drafted⟩ := Outcome.map_eq_ok_iff.mp added
          cases drafted
          rw [Effect.of_sequence role read]
          exact appendEach_moves lineBreak separated (free data read) draft
      · cases added
  · cases added

theorem addItems_reaches {newline : Text} {items : List Item} {stage : Stage}
    {draft draft' : Draft} (lineBreak : LineBreak newline)
    (free : ∀ item ∈ items, ∀ data, item.data = .ok data → brackets data = [])
    (reaches : draft.Reaches newline stage)
    (added : addItems newline draft items = .ok (some draft')) :
    draft'.Reaches newline ((items.map Effect.of).foldl Stage.next stage) := by
  induction items generalizing stage draft with
  | nil =>
      cases added
      exact reaches
  | cons item items ih =>
      obtain ⟨between?, addedFirst, added⟩ := Outcome.bind_eq_ok_iff.mp added
      cases between? with
      | none => cases added
      | some between =>
          have moves := addItem_moves lineBreak (free item (by simp)) addedFirst
          exact ih (fun later member => free later (.tail _ member))
            (reaches.step lineBreak moves) added

theorem reaches_empty (newline : Text) : Draft.Reaches newline .settled {} :=
  .settled .nil (by simp [brackets])

/-- The brackets of simple rules alternate, unless a group is closed by sequences
without data and followed by a tertiary item: then they are deep. -/
theorem brackets_of_ofItems {newline text : Text} {items : List Item}
    (lineBreak : LineBreak newline) (written : ofItems newline items = .ok (some text))
    (free : ∀ item ∈ items.tail, ∀ data, item.data = .ok data → brackets data = []) :
    (Alternates (brackets text) ↔ ¬Reopens (items.tail.map Effect.of)) ∧
      (Deep (brackets text) ↔ Reopens (items.tail.map Effect.of)) := by
  rw [← Stage.foldl_next_eq_nested_iff]
  cases items with
  | nil =>
      cases written
      exact (reaches_empty newline).brackets_endGroup
  | cons first rest =>
      obtain ⟨-, draft, added, trimmed⟩ := ofItems_cons_eq_some written
      rw [← trimmed, brackets_trim]
      exact (addItems_reaches lineBreak free (reaches_empty newline) added).brackets_endGroup

/-- A group may begin right after another has closed, if only a separator stands
between them. -/
theorem brackets_of_ofItems_adjoining :
    let start : Item :=
      { kind := "reset", before := some "primary", anchor := some "first_non_ignorable" }
    let items : List Item :=
      [{ kind := "p", text := "a" }, { kind := "tc", text := "bc" },
        { kind := "s", text := "" }, { kind := "t", text := "d" }]
    ofItems "\r\n" (start :: items) = .ok (some "(a b c) ( d)") ∧
      (∀ item ∈ items, ∀ data, item.data = .ok data → brackets data = []) ∧
      ¬Reopens (items.map Effect.of) ∧ Alternates (brackets "(a b c) ( d)") ∧
      ¬Deep (brackets "(a b c) ( d)") := by
  intro start items
  have written : ofItems "\r\n" (start :: items) = .ok (some "(a b c) ( d)") := by decide +kernel
  have free : ∀ item ∈ items, ∀ data, item.data = .ok data → brackets data = [] := by
    intro item member data read
    simp only [items, List.mem_cons, List.not_mem_nil, or_false] at member
    rcases member with rfl | rfl | rfl | rfl
    · cases read
      decide
    · cases read
      decide
    · cases read
      decide
    · cases read
      decide
  have flat : ¬Reopens (items.map Effect.of) := by decide
  obtain ⟨alternates, deep⟩ := brackets_of_ofItems (.inr rfl) written free
  exact ⟨written, free, flat, alternates.mpr flat, mt deep.mp flat⟩

/-- A sequence without data lets a group begin within another. -/
theorem brackets_of_ofItems_reopening :
    let items : List Item :=
      [{ kind := "reset", before := some "primary", anchor := some "first_non_ignorable" },
        { kind := "p", text := "a" }, { kind := "t", text := "b" },
        { kind := "pc", text := "" }, { kind := "t", text := "c" }]
    ofItems "\n" items = .ok (some "(a (b) c)") ∧ ¬Alternates (brackets "(a (b) c)") := by
  intro items
  have deep : Deep (brackets "(a (b) c)") := ⟨"((", "))", by decide, by decide⟩
  exact ⟨by decide +kernel, fun alternates => alternates.not_deep deep⟩

end SimpleRules

end Tailoring

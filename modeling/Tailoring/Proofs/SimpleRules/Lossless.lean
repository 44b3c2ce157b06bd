import Tailoring.Proofs.IcuRules.Entry
import Tailoring.Proofs.SimpleRules.Group

/-!
# Simple rules lose nothing

Tokens without blanks and brackets can be found again in simple rules: a token
goes up to the next delimiter, and so every group can be told from what follows
it. Trimming only takes the first line break. Two collations with the same
simple rules therefore order the same tokens, and have the same ICU rules.
-/

set_option autoImplicit false

namespace Tailoring

namespace SimpleRules

/-! ## Taking groups apart -/

/-- What can follow a token: nothing, or a delimiter. -/
def Delimited (t : Text) : Prop :=
  ∀ c ∈ t.head?, isDelimiter c = true

theorem Plain.takeWhile_append {data after : Text} (plain : Plain data)
    (delimited : Delimited after) :
    (data ++ after).takeWhile (fun c => !isDelimiter c) = data := by
  have stopped : after.takeWhile (fun c => !isDelimiter c) = [] := by
    cases after with
    | nil => rfl
    | cons c after => simp [delimited c rfl]
  rw [List.takeWhile_append_of_pos (by simpa using plain.undelimited), stopped, List.append_nil]

theorem Plain.append_cancel {data data' x y : Text} (plain : Plain data) (plain' : Plain data')
    (delimited : Delimited x) (delimited' : Delimited y) (same : data ++ x = data' ++ y) :
    data = data' ∧ x = y := by
  have tokens : data = data' := by
    rw [← plain.takeWhile_append delimited, same, plain'.takeWhile_append delimited']
  subst tokens
  exact ⟨rfl, List.append_cancel_left same⟩

theorem Plain.append_ne_bracket {data : Text} (plain : Plain data) (x y : Text) :
    data ++ x ≠ "(" ++ y := by
  intro same
  obtain ⟨c, rest, rfl⟩ := List.exists_cons_of_ne_nil plain.present
  have undelimited := plain.undelimited c (by simp)
  rw [(List.cons.inj same).1] at undelimited
  exact absurd undelimited (by decide)

theorem delimited_variants (variants : List Text) (x : Text) :
    Delimited (variants.flatMap (space :: ·) ++ ")" ++ x) := by
  cases variants with
  | nil =>
      rintro c ⟨⟩
      decide
  | cons variant variants =>
      rintro c ⟨⟩
      decide

theorem variants_append_cancel {variants variants' : List Text} {x y : Text}
    (plain : ∀ variant ∈ variants, Plain variant)
    (plain' : ∀ variant ∈ variants', Plain variant)
    (same : variants.flatMap (space :: ·) ++ ")" ++ x =
      variants'.flatMap (space :: ·) ++ ")" ++ y) :
    variants = variants' ∧ x = y := by
  induction variants generalizing variants' with
  | nil =>
      cases variants' with
      | nil => exact ⟨rfl, List.append_cancel_left same⟩
      | cons variant' variants' => exact absurd (List.cons.inj same).1 (by decide)
  | cons variant variants ih =>
      cases variants' with
      | nil => exact absurd (List.cons.inj same).1 (by decide)
      | cons variant' variants' =>
          have unspaced : variant ++ (variants.flatMap (space :: ·) ++ ")" ++ x) =
              variant' ++ (variants'.flatMap (space :: ·) ++ ")" ++ y) := by
            simpa using same
          obtain ⟨rfl, rest⟩ := (plain variant (by simp)).append_cancel (plain' variant' (by simp))
            (delimited_variants variants x) (delimited_variants variants' y) unspaced
          obtain ⟨rfl, after⟩ := ih (fun later member => plain later (.tail _ member))
            (fun later member => plain' later (.tail _ member)) rest
          exact ⟨rfl, after⟩

namespace Group

def Plain (group : Group) : Prop :=
  ∀ token ∈ group.tokens, SimpleRules.Plain token.text

theorem Plain.head {group : Group} (plain : group.Plain) : SimpleRules.Plain group.head :=
  plain _ (.head _)

theorem Plain.variants {group : Group} (plain : group.Plain) :
    ∀ variant ∈ group.variants, SimpleRules.Plain variant := by
  intro variant member
  exact plain ⟨.tertiary, variant⟩ (.tail _ (List.mem_map.mpr ⟨variant, member, rfl⟩))

theorem body_alone {group : Group} (alone : group.variants = []) : group.body = group.head := by
  simp [body, opened, alone]

theorem body_bracketed {group : Group} (varied : group.variants ≠ []) (x : Text) :
    group.body ++ x =
      "(" ++ (group.head ++ (group.variants.flatMap (space :: ·) ++ ")" ++ x)) := by
  obtain ⟨onNewLine, head, variants⟩ := group
  cases variants with
  | nil => exact absurd rfl varied
  | cons variant variants => simp [body, opened]

theorem body_append_cancel {group group' : Group} {x y : Text} (plain : group.Plain)
    (plain' : group'.Plain) (delimited : Delimited x) (delimited' : Delimited y)
    (same : group.body ++ x = group'.body ++ y) :
    group.head = group'.head ∧ group.variants = group'.variants ∧ x = y := by
  by_cases alone : group.variants = []
  · by_cases alone' : group'.variants = []
    · rw [body_alone alone, body_alone alone'] at same
      obtain ⟨heads, after⟩ := plain.head.append_cancel plain'.head delimited delimited' same
      exact ⟨heads, alone.trans alone'.symm, after⟩
    · rw [body_alone alone, body_bracketed alone'] at same
      exact absurd same (plain.head.append_ne_bracket _ _)
  · by_cases alone' : group'.variants = []
    · rw [body_bracketed alone, body_alone alone'] at same
      exact absurd same.symm (plain'.head.append_ne_bracket _ _)
    · rw [body_bracketed alone, body_bracketed alone'] at same
      obtain ⟨heads, rest⟩ := plain.head.append_cancel plain'.head (delimited_variants _ _)
        (delimited_variants _ _) (List.append_cancel_left same)
      exact ⟨heads, variants_append_cancel plain.variants plain'.variants rest⟩

theorem text_append_cancel {newline : Text} {group group' : Group} {x y : Text}
    (lineBreak : LineBreak newline) (plain : group.Plain) (plain' : group'.Plain)
    (delimited : Delimited x) (delimited' : Delimited y)
    (same : group.text newline ++ x = group'.text newline ++ y) : group = group' ∧ x = y := by
  rw [text, text, List.append_assoc, List.append_assoc] at same
  have onNewLine : group.onNewLine = group'.onNewLine := by
    cases first : group.onNewLine <;> cases first' : group'.onNewLine <;>
      simp only [separator, first, first', if_true] at same
    · rfl
    · exact absurd same.symm (lineBreak.append_ne_space _ _)
    · exact absurd same (lineBreak.append_ne_space _ _)
    · rfl
  have bodies : group.body ++ x = group'.body ++ y := by
    rw [separator, separator, onNewLine] at same
    exact List.append_cancel_left same
  obtain ⟨head, variants, after⟩ := body_append_cancel plain plain' delimited delimited' bodies
  cases group
  cases group'
  cases onNewLine
  cases head
  cases variants
  exact ⟨rfl, after⟩

theorem separator_delimited {newline : Text} (lineBreak : LineBreak newline) (group : Group) :
    ∃ c rest, group.separator newline = c :: rest ∧ isDelimiter c = true := by
  cases onNewLine : group.onNewLine with
  | true =>
      obtain ⟨c, more, split, _⟩ := lineBreak.eq_cons
      have blank := lineBreak.blank c (by simp [split])
      exact ⟨c, more, by simp [separator, onNewLine, split], by simp [isDelimiter, blank]⟩
  | false => exact ⟨space, [], by simp [separator, onNewLine], by decide⟩

theorem delimited_flatMap {newline : Text} (lineBreak : LineBreak newline)
    (groups : List Group) : Delimited (groups.flatMap (text newline)) := by
  cases groups with
  | nil =>
      rintro c ⟨⟩
  | cons group groups =>
      obtain ⟨c, rest, starts, delimiter⟩ := separator_delimited lineBreak group
      rw [List.flatMap_cons, text, starts]
      rintro d ⟨⟩
      exact delimiter

theorem flatMap_text_inj {newline : Text} {groups groups' : List Group}
    (lineBreak : LineBreak newline) (plain : ∀ group ∈ groups, group.Plain)
    (plain' : ∀ group ∈ groups', group.Plain)
    (same : groups.flatMap (text newline) = groups'.flatMap (text newline)) :
    groups = groups' := by
  apply Text.flatMap_injective_of_cancel _ _ plain plain' same
  · intro group
    obtain ⟨c, rest, starts, _⟩ := separator_delimited lineBreak group
    simp [text, starts]
  · intro group group' rest rest' plain plain' same
    exact text_append_cancel lineBreak plain plain' (delimited_flatMap lineBreak rest)
      (delimited_flatMap lineBreak rest') same

/-! ## What trimming takes -/

theorem Plain.body_starts {group : Group} (plain : group.Plain) (x : Text) :
    ∀ c ∈ (group.body ++ x).head?, c.isBlank = false := by
  by_cases alone : group.variants = []
  · obtain ⟨c, rest, head⟩ := List.exists_cons_of_ne_nil plain.head.present
    rw [body_alone alone, head]
    rintro d ⟨⟩
    exact plain.head.not_blank (by simp [head])
  · rw [body_bracketed alone]
    rintro d ⟨⟩
    decide

theorem Plain.endsSolid_body {group : Group} (plain : group.Plain) : EndsSolid group.body := by
  by_cases alone : group.variants = []
  · rw [body_alone alone]
    have last := List.getLast?_eq_some_getLast plain.head.present
    exact ⟨_, last, plain.head.not_blank (List.getLast_mem plain.head.present)⟩
  · have bracketed := body_bracketed alone []
    rw [List.append_nil, List.append_nil, ← List.append_assoc, ← List.append_assoc] at bracketed
    rw [bracketed]
    exact EndsSolid.append ⟨(')' : CodePoint), rfl, by decide⟩ _

/-- Puts back the line break that trimming takes from the start. -/
def restore (newline t : Text) : Text :=
  if t = [] then [] else newline ++ t

theorem restore_trim {newline : Text} {groups : List Group} (lineBreak : LineBreak newline)
    (onNewLine : ∀ group ∈ groups.head?, group.onNewLine = true)
    (plain : ∀ group ∈ groups, group.Plain) :
    restore newline (Text.trim (groups.flatMap (text newline))) =
      groups.flatMap (text newline) := by
  cases groups with
  | nil => rfl
  | cons group groups =>
      -- the line break is the only blank at either end
      have plainFirst := plain group (by simp)
      have written : (group :: groups).flatMap (text newline) =
          newline ++ (group.body ++ groups.flatMap (text newline)) := by
        simp [text, separator, onNewLine group rfl]
      obtain ⟨c, last, solid⟩ : EndsSolid (group.body ++ groups.flatMap (text newline)) := by
        by_cases alone : groups = []
        · simpa [alone] using plainFirst.endsSolid_body
        · have solid := EndsSolid.flatMap
            (fun group member => (plain group (.tail _ member)).endsSolid_body.append
              (group.separator newline)) alone
          exact solid.append _
      have trimmed := Text.trim_append_of_solid lineBreak.blank
        (plainFirst.body_starts (groups.flatMap (text newline)))
        (by rw [last]; rintro d ⟨⟩; exact solid)
      have present : group.body ++ groups.flatMap (text newline) ≠ [] := by
        intro empty
        rw [empty] at last
        cases last
      rw [written, trimmed, restore, if_neg present]

end Group

theorem Orderly.plain_groups {tokens : List Token} (orderly : Orderly tokens) :
    ∀ group ∈ Group.ofTokens tokens, group.Plain := by
  intro group member token part
  apply orderly.plain token
  rw [← Group.ofTokens_tokens orderly]
  exact List.mem_flatMap.mpr ⟨group, member, part⟩

theorem Orderly.onNewLine {tokens : List Token} (orderly : Orderly tokens) :
    ∀ group ∈ (Group.ofTokens tokens).head?, group.onNewLine = true := by
  intro group first
  obtain ⟨rest, groups⟩ : ∃ rest, Group.ofTokens tokens = group :: rest :=
    List.head?_eq_some_iff.mp first
  have told := Group.ofTokens_tokens orderly
  rw [groups] at told
  have primary := orderly.startsPrimary
  rw [← told] at primary
  by_contra notNew
  simp [Group.tokens, notNew] at primary

/-- Tokens are found again in the text that they are drafted to, once trimmed. -/
theorem Orderly.trim_text_injective {newline : Text} {tokens tokens' : List Token}
    (lineBreak : LineBreak newline) (orderly : Orderly tokens) (orderly' : Orderly tokens')
    (same : Text.trim (tokens.foldl (Draft.add newline) {}).endGroup.text =
      Text.trim (tokens'.foldl (Draft.add newline) {}).endGroup.text) :
    tokens = tokens' := by
  rw [Draft.text_foldl_add lineBreak orderly, Draft.text_foldl_add lineBreak orderly'] at same
  have groups : Group.ofTokens tokens = Group.ofTokens tokens' := by
    apply Group.flatMap_text_inj lineBreak orderly.plain_groups orderly'.plain_groups
    rw [← Group.restore_trim lineBreak orderly.onNewLine orderly.plain_groups, same,
      Group.restore_trim lineBreak orderly'.onNewLine orderly'.plain_groups]
  rw [← Group.ofTokens_tokens orderly, groups, Group.ofTokens_tokens orderly']

/-! ## Collations of plain tokens -/

/-- A token as a clause of ICU rules. -/
def Token.clause (token : Token) : Clause :=
  .relation token.strength (Literal.ofText token.text)

end SimpleRules

/-- An item emits the clauses of its tokens, if it has data and no anchor. -/
theorem Item.Orders.emits {item : Item} {tokens : List SimpleRules.Token} {data : Text}
    (orders : item.Orders tokens) (noAnchor : item.anchor = none) (read : item.data = .ok data)
    (present : data ≠ []) : item.Emits (tokens.map SimpleRules.Token.clause) := by
  have notEmpty := Item.isEmpty_of_data read present
  cases orders with
  | relation role readAgain =>
      refine .relation role ?_
      simp [Item.literal, notEmpty, noAnchor, readAgain, Except.map]
  | @sequence strength data role readAgain =>
      have clauses : (SimpleRules.Token.each strength (Text.scalars data)).map
          SimpleRules.Token.clause =
            (Text.scalars data).map fun s => .relation strength (Literal.ofScalar s) := by
        rw [SimpleRules.Token.each, List.map_map]
        apply List.map_congr_left
        intro s member
        rw [Literal.ofScalar_eq_ofText (Text.wellFormed_of_mem_scalars member)]
        rfl
      rw [clauses]
      exact .sequence role notEmpty readAgain

theorem Item.Orders.plain {item : Item} {tokens : List SimpleRules.Token} {data : Text}
    (orders : item.Orders tokens) (read : item.data = .ok data) (plain : SimpleRules.Plain data) :
    ∀ token ∈ tokens, SimpleRules.Plain token.text := by
  cases orders with
  | relation role readAgain =>
      cases read.symm.trans readAgain
      simpa using plain
  | sequence role readAgain =>
      cases read.symm.trans readAgain
      intro token member
      obtain ⟨s, scalar, rfl⟩ := List.mem_map.mp member
      exact ⟨s.text_ne_nil, fun c part => plain.undelimited c (Text.mem_of_mem_scalars scalar part)⟩

/-- An item of a primary kind that has data begins with a primary difference. -/
theorem Item.Orders.startsPrimary {item : Item} {tokens : List SimpleRules.Token} {data : Text}
    (orders : item.Orders tokens) (read : item.data = .ok data) (present : data ≠ [])
    (primary : item.role? = some (.relation .primary) ∨ item.role? = some (.sequence .primary)) :
    ∃ text rest, tokens = ⟨.primary, text⟩ :: rest := by
  cases orders with
  | relation role readAgain =>
      rw [role] at primary
      simp only [Option.some.injEq, Role.relation.injEq, reduceCtorEq, or_false] at primary
      rw [primary]
      exact ⟨_, _, rfl⟩
  | sequence role readAgain =>
      cases read.symm.trans readAgain
      rw [role] at primary
      simp only [Option.some.injEq, Role.sequence.injEq, reduceCtorEq, false_or] at primary
      obtain ⟨first, rest, scalars⟩ := List.exists_cons_of_ne_nil (Text.scalars_ne_nil present)
      rw [primary, scalars]
      exact ⟨_, _, rfl⟩

namespace Collation

/-- A collation with neither settings nor options that orders characters without
blanks and brackets after its first item, from a primary difference on. -/
structure OrdersPlainly (collation : Collation) (start : Item) (items : List Item) : Prop where
  noSettings : collation.settings = none
  noSuppression : collation.suppressContractions = none
  noOptimization : collation.optimize = none
  rules : collation.rules = some (start :: items)
  startsPrimary : ∀ item ∈ items.head?,
    item.role? = some (.relation .primary) ∨ item.role? = some (.sequence .primary)
  noAnchor : ∀ item ∈ items, item.anchor = none
  plain : ∀ item ∈ items, ∃ data, item.data = .ok data ∧ SimpleRules.Plain data

namespace OrdersPlainly

variable {collation : Collation} {start : Item} {items : List Item}
  {tokens : List SimpleRules.Token}

theorem orderly (plainly : collation.OrdersPlainly start items)
    (orders : Item.OrderAll items tokens)
    (told : ∀ token ∈ tokens, token.strength ≠ .identical) : SimpleRules.Orderly tokens := by
  obtain ⟨parts, orders, rfl⟩ := orders
  refine ⟨?_, told, ?_⟩
  · cases orders with
    | nil =>
        rintro token ⟨⟩
    | @cons item part rest parts ordersFirst _ =>
        obtain ⟨data, read, plain⟩ := plainly.plain item (by simp)
        obtain ⟨text, more, rfl⟩ := ordersFirst.startsPrimary read plain.present
          (plainly.startsPrimary item rfl)
        rintro token ⟨⟩
        rfl
  · intro token member
    obtain ⟨part, partOf, member⟩ := List.mem_flatten.mp member
    obtain ⟨item, listed, orders⟩ := Outcome.exists_related orders partOf
    obtain ⟨data, read, plain⟩ := plainly.plain item listed
    exact orders.plain read plain token member

theorem emitAll (plainly : collation.OrdersPlainly start items)
    (orders : Item.OrderAll items tokens) :
    Item.EmitAll items (tokens.map SimpleRules.Token.clause) := by
  obtain ⟨parts, orders, rfl⟩ := orders
  refine ⟨parts.map (List.map SimpleRules.Token.clause), ?_, List.map_flatten.symm⟩
  rw [List.forall₂_map_right_iff]
  have plainOrders := (List.forall₂_and_left items parts).mpr
    ⟨fun item listed => And.intro (plainly.noAnchor item listed) (plainly.plain item listed),
      orders⟩
  apply plainOrders.imp
  rintro item part ⟨⟨noAnchor, data, read, plain⟩, orders⟩
  exact orders.emits noAnchor read plain.present

/-- Accepted simple rules are those of the tokens, and so are the ICU rules. -/
theorem of_accepted {newline text : Text} (plainly : collation.OrdersPlainly start items)
    (accepted : collation.simpleRules? newline = .ok (some text)) :
    ∃ tokens, Item.OrderAll items tokens ∧ SimpleRules.Orderly tokens ∧
      Text.trim (tokens.foldl (SimpleRules.Draft.add newline) {}).endGroup.text = text ∧
      collation.icuRules newline = .ok (IcuRules.trim
        ((.reset "[before 1] " "[first regular]" :: tokens.map SimpleRules.Token.clause).flatMap
          (Clause.text newline))) := by
  have ofItems : SimpleRules.ofItems newline (start :: items) = .ok (some text) := by
    simpa [simpleRules?, plainly.noSettings, plainly.rules] using accepted
  obtain ⟨starts, draft, added, trimmed⟩ := SimpleRules.ofItems_cons_eq_some ofItems
  obtain ⟨tokens, orders, told, rfl⟩ := SimpleRules.addItems_eq_foldl_add
    (fun item listed => (plainly.plain item listed).imp fun _ => And.imp_right (·.present)) added
  refine ⟨tokens, orders, plainly.orderly orders told, trimmed, ?_⟩
  apply icuRules_of_bare newline plainly.noSettings plainly.noSuppression plainly.noOptimization
  obtain ⟨emitted, emits, flat⟩ := plainly.emitAll orders
  rw [plainly.rules]
  obtain ⟨role, before, position⟩ := SimpleRules.isStart_eq_true_iff.mp starts
  exact ⟨_ :: emitted, .cons (.reset role before position) emits, by simp [flat]⟩

end OrdersPlainly

/-- Collations of plain tokens with the same simple rules order the same tokens
and have the same ICU rules. -/
theorem simpleRules_lossless {newline text : Text} {collation collation' : Collation}
    {start start' : Item} {items items' : List Item} (lineBreak : LineBreak newline)
    (plainly : collation.OrdersPlainly start items)
    (plainly' : collation'.OrdersPlainly start' items')
    (accepted : collation.simpleRules? newline = .ok (some text))
    (accepted' : collation'.simpleRules? newline = .ok (some text)) :
    ∃ tokens rules, Item.OrderAll items tokens ∧ Item.OrderAll items' tokens ∧
      collation.icuRules newline = .ok rules ∧ collation'.icuRules newline = .ok rules := by
  obtain ⟨tokens, orders, orderly, written, icu⟩ := plainly.of_accepted accepted
  obtain ⟨tokens', orders', orderly', written', icu'⟩ := plainly'.of_accepted accepted'
  obtain rfl : tokens = tokens' :=
    orderly.trim_text_injective lineBreak orderly' (written.trans written'.symm)
  exact ⟨tokens, _, orders, orders', icu, icu'⟩

/-- A sequence and its tertiary variant say the same as the relations that they
stand for. -/
theorem simpleRules_lossless_regrouped :
    let start : Item :=
      { kind := "reset", before := some "primary", anchor := some "first_non_ignorable" }
    let items : List Item :=
      [{ kind := "pc", text := "ab" }, { kind := "t", text := "B" }, { kind := "s", text := "c" }]
    let items' : List Item :=
      [{ kind := "p", text := "a" }, { kind := "pc", text := "b" }, { kind := "tc", text := "B" },
        { kind := "sc", text := "c" }]
    let collation : Collation := { rules := some (start :: items) }
    let collation' : Collation := { rules := some (start :: items') }
    ∃ tokens rules, Item.OrderAll items tokens ∧ Item.OrderAll items' tokens ∧
      collation.icuRules "\r\n" = .ok rules ∧ collation'.icuRules "\r\n" = .ok rules := by
  intro start items items' collation collation'
  have plainly : collation.OrdersPlainly start items :=
    { noSettings := rfl
      noSuppression := rfl
      noOptimization := rfl
      rules := rfl
      startsPrimary := by rintro item ⟨⟩; exact .inr rfl
      noAnchor := by simp [items]
      plain := by
        simp only [items, List.forall_mem_cons, List.not_mem_nil, false_implies, implies_true,
          and_true]
        exact ⟨⟨"ab", rfl, by decide⟩, ⟨"B", rfl, by decide⟩, "c", rfl, by decide⟩ }
  have plainly' : collation'.OrdersPlainly start items' :=
    { noSettings := rfl
      noSuppression := rfl
      noOptimization := rfl
      rules := rfl
      startsPrimary := by rintro item ⟨⟩; exact .inl rfl
      noAnchor := by simp [items']
      plain := by
        simp only [items', List.forall_mem_cons, List.not_mem_nil, false_implies, implies_true,
          and_true]
        exact ⟨⟨"a", rfl, by decide⟩, ⟨"b", rfl, by decide⟩, ⟨"B", rfl, by decide⟩,
          "c", rfl, by decide⟩ }
  have accepted : collation.simpleRules? "\r\n" = .ok (some "a\r\n(b B) c") := rfl
  exact simpleRules_lossless (.inr rfl) plainly plainly' accepted rfl

end Collation

end Tailoring

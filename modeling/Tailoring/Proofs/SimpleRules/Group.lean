import Tailoring.Proofs.SimpleRules.Token
import Tailoring.Proofs.Text.Layout
import Tailoring.Proofs.Text.Search

/-!
# The groups of simple rules

The text of simple rules is a row of groups. A group is a token on a new line or
after a space, and the tokens that differ from it only in tertiary ways; if there
are any, the group stands in brackets. Drafting tokens one after the other, with
the opening bracket put in late, writes the groups that the tokens fall into.
-/

set_option autoImplicit false

namespace Tailoring.SimpleRules

/-- A code point that parts tokens or brackets them. -/
def isDelimiter (c : CodePoint) : Bool :=
  c.isBlank || decide (c = '(') || decide (c = ')')

/-- Characters that can stand as a token and be found again. -/
structure Plain (data : Text) : Prop where
  present : data ≠ []
  undelimited : ∀ c ∈ data, isDelimiter c = false

instance (data : Text) : Decidable (Plain data) :=
  decidable_of_iff (data ≠ [] ∧ data.all (fun c => !isDelimiter c) = true)
    ⟨fun ⟨present, all⟩ => ⟨present, by simpa using all⟩,
      fun plain => ⟨plain.present, by simpa using plain.undelimited⟩⟩

theorem Plain.not_blank {data : Text} (plain : Plain data) {c : CodePoint} (member : c ∈ data) :
    c.isBlank = false := by
  have undelimited := plain.undelimited c member
  simp only [isDelimiter, Bool.or_eq_false_iff] at undelimited
  exact undelimited.1.1

/-- Tokens that simple rules tell without loss. -/
structure Orderly (tokens : List Token) : Prop where
  startsPrimary : ∀ token ∈ tokens.head?, token.strength = .primary
  told : ∀ token ∈ tokens, token.strength ≠ .identical
  plain : ∀ token ∈ tokens, Plain token.text

/-- A token that starts on a line of its own or after a space, with those that
differ from it in tertiary ways. -/
structure Group where
  onNewLine : Bool
  head : Text
  variants : List Text
  deriving DecidableEq

namespace Group

def separator (newline : Text) (group : Group) : Text :=
  if group.onNewLine then newline else [space]

/-- A group up to a closing bracket, which is due if there are variants. -/
def opened (group : Group) : Text :=
  match group.variants with
  | [] => group.head
  | variants => "(" ++ group.head ++ variants.flatMap (space :: ·)

def body (group : Group) : Text :=
  match group.variants with
  | [] => group.opened
  | _ => group.opened ++ ")"

def text (newline : Text) (group : Group) : Text :=
  group.separator newline ++ group.body

def tokens (group : Group) : List Token :=
  ⟨if group.onNewLine then .primary else .secondary, group.head⟩ ::
    group.variants.map fun variant => ⟨.tertiary, variant⟩

/-- The groups that tokens fall into after a group has begun. -/
def gather (last : Group) : List Token → List Group
  | [] => [last]
  | ⟨.tertiary, data⟩ :: rest =>
      gather { last with variants := last.variants ++ [data] } rest
  | ⟨strength, data⟩ :: rest => last :: gather ⟨strength == .primary, data, []⟩ rest

theorem gather_tokens (last : Group) {tokens : List Token}
    (told : ∀ token ∈ tokens, token.strength ≠ .identical) :
    (gather last tokens).flatMap Group.tokens = last.tokens ++ tokens := by
  fun_induction gather last tokens with
  | case1 last => simp
  | case2 last data rest ih =>
      rw [ih fun token member => told token (.tail _ member)]
      simp [Group.tokens]
  | case3 last strength data rest notTertiary ih =>
      rw [List.flatMap_cons, ih fun token member => told token (.tail _ member)]
      have notIdentical := told ⟨strength, data⟩ (by simp)
      cases strength with
      | primary => simp [Group.tokens]
      | secondary => simp [Group.tokens]
      | tertiary => exact absurd rfl notTertiary
      | identical => exact absurd rfl notIdentical

/-- The groups that tokens fall into from the start, where a group begins. -/
def ofTokens : List Token → List Group
  | [] => []
  | token :: rest => gather ⟨token.strength == .primary, token.text, []⟩ rest

theorem ofTokens_tokens {tokens : List Token} (orderly : Orderly tokens) :
    (ofTokens tokens).flatMap Group.tokens = tokens := by
  cases tokens with
  | nil => rfl
  | cons token rest =>
      rw [ofTokens, gather_tokens _ fun token member => orderly.told token (.tail _ member)]
      have primary := orderly.startsPrimary token rfl
      simp [Group.tokens, ← primary]

end Group

/-- No separator starts within a last token without blanks. -/
theorem after_lastIndexOf?_le {separator head : Text} (front : Text)
    (present : separator ≠ []) (blank : ∀ c ∈ separator, c.isBlank = true)
    (solid : ∀ c ∈ head, c.isBlank = false) :
    (Text.lastIndexOf? separator (front ++ head)).elim 0 (· + separator.length) ≤
      front.length := by
  cases found : Text.lastIndexOf? separator (front ++ head) with
  | none => exact Nat.zero_le _
  | some index =>
      apply Text.lastIndexOf?_before_end present _ found
      intro c separates member
      exact absurd (blank c separates) (by simp [solid c member])

theorem after_lastIndexOf?_eq {c : CodePoint} {more head : Text} (front : Text)
    (once : c ∉ more) (blank : c.isBlank = true) (solid : ∀ c ∈ head, c.isBlank = false) :
    (Text.lastIndexOf? (c :: more) (front ++ (c :: more) ++ head)).elim 0
      (· + (c :: more).length) = (front ++ c :: more).length := by
  have absent : c ∉ more ++ head := by
    intro member
    rcases List.mem_append.mp member with member | member
    · exact once member
    · exact absurd blank (by simp [solid c member])
  rw [Text.lastIndexOf?_at_end absent front, List.length_append]
  rfl

/-- The last token starts after the separator of its group. -/
theorem tokenStart_of_separated {newline : Text} (lineBreak : LineBreak newline) (group : Group)
    (solid : ∀ c ∈ group.head, c.isBlank = false) (front : Text) :
    Draft.tokenStart newline (front ++ group.separator newline ++ group.head) =
      (front ++ group.separator newline).length := by
  obtain ⟨c, more, rfl, once⟩ := lineBreak.eq_cons
  have blank := lineBreak.blank
  have spaceBlank : ∀ c ∈ [space], c.isBlank = true := by
    intro c member
    rw [List.mem_singleton.mp member]
    rfl
  have lineBound := after_lastIndexOf?_le (front ++ group.separator (c :: more)) (by simp) blank
    solid
  have spaceBound := after_lastIndexOf?_le (front ++ group.separator (c :: more)) (by simp)
    spaceBlank solid
  unfold Draft.tokenStart
  cases onNewLine : group.onNewLine with
  | true =>
      have separator : group.separator (c :: more) = c :: more := by
        simp [Group.separator, onNewLine]
      have found := after_lastIndexOf?_eq front once (blank c (by simp)) solid
      rw [separator] at spaceBound ⊢
      rw [found]
      exact Nat.max_eq_left spaceBound
  | false =>
      have separator : group.separator (c :: more) = [space] := by
        simp [Group.separator, onNewLine]
      have found := after_lastIndexOf?_eq front List.not_mem_nil (spaceBlank space (by simp)) solid
      rw [separator] at lineBound ⊢
      exact (congrArg (max _) found).trans (Nat.max_eq_right lineBound)

namespace Draft

/-- The draft of groups that are complete and a last one that may still grow. -/
def ofGroups (newline : Text) (done : List Group) (last : Group) : Draft where
  text := done.flatMap (Group.text newline) ++ last.separator newline ++ last.opened
  inGroup := !last.variants.isEmpty

theorem endGroup_ofGroups (newline : Text) (done : List Group) (last : Group) :
    (ofGroups newline done last).endGroup =
      { text := (done ++ [last]).flatMap (Group.text newline), inGroup := false } := by
  obtain ⟨onNewLine, head, variants⟩ := last
  cases variants with
  | nil => simp [endGroup, ofGroups, Group.text, Group.separator, Group.body]
  | cons variant variants => simp [endGroup, ofGroups, Group.text, Group.separator, Group.body]

theorem add_begins_group (newline : Text) (done : List Group) (last : Group)
    {strength : Strength} (data : Text)
    (begins : strength = .primary ∨ strength = .secondary) :
    (ofGroups newline done last).add newline ⟨strength, data⟩ =
      ofGroups newline (done ++ [last]) ⟨strength == .primary, data, []⟩ := by
  rcases begins with rfl | rfl
  · simp only [add, prepare, endGroup_ofGroups]
    simp [append, separator?, ofGroups, Group.opened, Group.separator]
  · simp only [add, prepare, endGroup_ofGroups]
    simp [append, separator?, ofGroups, Group.opened, Group.separator]

theorem beginGroup_of_start {newline front token : Text} {draft : Draft}
    (closed : draft.inGroup = false) (text : draft.text = front ++ token)
    (start : tokenStart newline (front ++ token) = front.length) :
    draft.beginGroup newline = { text := front ++ "(" ++ token, inGroup := true } := by
  simp [beginGroup, closed, text, start]

/-- A tertiary difference puts the last group in brackets, if it is not yet, and
goes to its end. -/
theorem add_extends_group {newline : Text} (lineBreak : LineBreak newline) (done : List Group)
    {last : Group} (data : Text) (solid : ∀ c ∈ last.head, c.isBlank = false) :
    (ofGroups newline done last).add newline ⟨.tertiary, data⟩ =
      ofGroups newline done { last with variants := last.variants ++ [data] } := by
  -- a variant may hold blanks, but by then the bracket is open and no start is looked for
  have start := tokenStart_of_separated lineBreak last solid (done.flatMap (Group.text newline))
  obtain ⟨onNewLine, head, variants⟩ := last
  cases variants with
  | nil =>
      have begun : (ofGroups newline done ⟨onNewLine, head, []⟩).beginGroup newline =
          { text := done.flatMap (Group.text newline) ++
              Group.separator newline ⟨onNewLine, head, []⟩ ++ "(" ++ head
            inGroup := true } := by
        have text : (ofGroups newline done ⟨onNewLine, head, []⟩).text =
            done.flatMap (Group.text newline) ++
              Group.separator newline ⟨onNewLine, head, []⟩ ++ head := by
          simp [ofGroups, Group.opened]
        exact beginGroup_of_start rfl text start
      simp only [add, prepare, begun]
      simp [append, separator?, ofGroups, Group.opened, Group.separator]
  | cons variant variants =>
      simp [add, prepare, beginGroup, append, separator?, ofGroups, Group.opened,
        Group.separator]

/-- Drafting tokens to the end writes the groups that they fall into. -/
theorem foldl_add_ofGroups {newline : Text} (lineBreak : LineBreak newline) (done : List Group)
    {last : Group} {tokens : List Token} (solid : ∀ c ∈ last.head, c.isBlank = false)
    (solids : ∀ token ∈ tokens, ∀ c ∈ token.text, c.isBlank = false)
    (told : ∀ token ∈ tokens, token.strength ≠ .identical) :
    (tokens.foldl (add newline) (ofGroups newline done last)).endGroup.text =
      (done ++ last.gather tokens).flatMap (Group.text newline) := by
  induction tokens generalizing done last with
  | nil => rw [List.foldl_nil, endGroup_ofGroups, Group.gather]
  | cons token tokens ih =>
      obtain ⟨strength, data⟩ := token
      have solidData := solids ⟨strength, data⟩ (by simp)
      have solids' := fun token member => solids token (.tail _ member)
      have told' := fun token member => told token (.tail _ member)
      have solidNext : ∀ c ∈ (⟨strength == .primary, data, []⟩ : Group).head,
          c.isBlank = false := solidData
      cases strength with
      | primary =>
          rw [List.foldl_cons, add_begins_group newline done last data (.inl rfl),
            ih (done ++ [last]) solidNext solids' told', List.append_assoc]
          rfl
      | secondary =>
          rw [List.foldl_cons, add_begins_group newline done last data (.inr rfl),
            ih (done ++ [last]) solidNext solids' told', List.append_assoc]
          rfl
      | tertiary =>
          rw [List.foldl_cons, add_extends_group lineBreak done data solid,
            ih done (by exact solid) solids' told']
          rfl
      | identical => exact absurd rfl (told ⟨.identical, data⟩ (by simp))

theorem text_foldl_add {newline : Text} (lineBreak : LineBreak newline) {tokens : List Token}
    (orderly : Orderly tokens) :
    (tokens.foldl (add newline) {}).endGroup.text =
      (Group.ofTokens tokens).flatMap (Group.text newline) := by
  cases tokens with
  | nil => rfl
  | cons token rest =>
      obtain ⟨strength, data⟩ := token
      obtain rfl : strength = .primary := orderly.startsPrimary ⟨strength, data⟩ rfl
      have first : ({} : Draft).add newline ⟨.primary, data⟩ =
          ofGroups newline [] ⟨true, data, []⟩ := by
        simp [add, prepare, endGroup, append, separator?, ofGroups, Group.separator, Group.opened]
      rw [List.foldl_cons, first]
      apply foldl_add_ofGroups lineBreak []
      · exact fun c => (orderly.plain ⟨.primary, data⟩ (by simp)).not_blank
      · exact fun token member c => (orderly.plain token (.tail _ member)).not_blank
      · exact fun token member => orderly.told token (.tail _ member)

end Draft

end Tailoring.SimpleRules

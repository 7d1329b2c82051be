import RedemptionRelay.Json.Document
import RedemptionRelay.Proofs.Json.RoundTrip

/-! # Documents of values

The text of a value stays on one line, and what it spells out holds what the
value has. It is read as a dynamic document again where the reader goes deep
enough and no object opens with the key that stands for a number, and then
gives the value with its members in order.
-/

namespace RedemptionRelay.Json

/-! ## On one line -/

/-- No character below the space, so none that ends a line. -/
def IsVisible (chars : List Char) : Prop :=
  ∀ c ∈ chars, 0x20 ≤ c.toNat

instance (chars : List Char) : Decidable (IsVisible chars) :=
  List.decidableBAll (fun c : Char => 0x20 ≤ c.toNat) chars

section

variable {chars digits left first second : List Char}

theorem isVisible_append : IsVisible (first ++ second) ↔ IsVisible first ∧ IsVisible second :=
  List.forall_mem_append

theorem isVisible_cons {c : Char} :
    IsVisible (c :: chars) ↔ 0x20 ≤ c.toNat ∧ IsVisible chars :=
  List.forall_mem_cons

theorem isVisible_nil : IsVisible [] :=
  List.forall_mem_nil _

theorem isVisible_of_isDigit (all : ∀ c ∈ digits, c.isDigit = true) : IsVisible digits := by
  intro c isIn
  have bounds : '0'.toNat ≤ c.toNat := (Char.isDigit_iff_toNat.mp (all c isIn)).1
  exact Nat.le_trans (by decide) bounds

theorem isVisible_takeDigits (chars : List Char) : IsVisible (takeDigits chars).1 :=
  isVisible_of_isDigit fun _ isIn => List.mem_takeWhile_imp isIn

theorem isVisible_readSign (chars : List Char) : IsVisible (readSign chars).1 := by
  unfold readSign
  split
  · exact isVisible_cons.mpr ⟨by decide, isVisible_nil⟩
  · exact isVisible_nil

theorem isVisible_of_readWhole (reads : readWhole chars = some (digits, left)) :
    IsVisible digits := by
  unfold readWhole at reads
  split at reads
  · cases reads
    exact isVisible_cons.mpr ⟨by decide, isVisible_nil⟩
  · dsimp only at reads
    split at reads
    · cases reads
    · cases reads
      exact isVisible_takeDigits chars

theorem isVisible_of_readFraction (reads : readFraction chars = some (digits, left)) :
    IsVisible digits := by
  unfold readFraction at reads
  split at reads
  · dsimp only at reads
    split at reads
    · cases reads
    · cases reads
      exact isVisible_cons.mpr ⟨by decide, isVisible_takeDigits _⟩
  · cases reads
    exact isVisible_nil

theorem isVisible_of_readExponent (reads : readExponent chars = some (digits, left)) :
    IsVisible digits := by
  have sign (chars : List Char) : 0x20 ≤ (readExponentSign chars).1.toNat := by
    have plus : 0x20 ≤ '+'.toNat := by decide
    have minus : 0x20 ≤ '-'.toNat := by decide
    rcases readExponentSign_eq chars with ⟨sign, rest, rfl | rfl, -, signed⟩ | unsigned
    · rwa [signed]
    · rwa [signed]
    · rwa [unsigned]
  unfold readExponent at reads
  split at reads
  · cases reads
    exact isVisible_nil
  · split at reads
    · dsimp only at reads
      split at reads
      · cases reads
      · cases reads
        exact isVisible_cons.mpr ⟨by decide, isVisible_cons.mpr ⟨sign _, isVisible_takeDigits _⟩⟩
    · cases reads
      exact isVisible_nil

theorem isVisible_of_readNumber {kept : String} (reads : readNumber chars = some (kept, left)) :
    IsVisible kept.toList := by
  simp only [readNumber, Option.bind_eq_bind, Option.bind_eq_some_iff, Option.pure_def,
    Option.some.injEq, Prod.mk.injEq] at reads
  rcases reads with ⟨⟨whole, afterWhole⟩, readsWhole, ⟨fraction, afterFraction⟩, readsFraction,
    ⟨exponent, afterExponent⟩, readsExponent, rfl, -⟩
  rw [String.toList_ofList]
  simp only [isVisible_append]
  exact ⟨⟨⟨isVisible_readSign _, isVisible_of_readWhole readsWhole⟩,
    isVisible_of_readFraction readsFraction⟩, isVisible_of_readExponent readsExponent⟩

theorem Respelled.isVisible {written kept : List Char} (respelled : Respelled written kept)
    (visible : IsVisible kept) : IsVisible written := by
  have mark {c : Char} (isMark : c = 'e' ∨ c = 'E') : 0x20 ≤ c.toNat := by
    rcases isMark with rfl | rfl <;> decide
  cases respelled with
  | same => exact visible
  | signed before isMark isSign all =>
      rw [isVisible_append, isVisible_cons] at visible ⊢
      exact ⟨visible.1, mark isMark, visible.2.2⟩
  | unsigned before isMark all =>
      rw [isVisible_append, isVisible_cons, isVisible_cons] at visible
      rw [isVisible_append, isVisible_cons]
      exact ⟨visible.1, mark isMark, visible.2.2.2⟩

theorem respelled_of_legible {literal : String} (legible : (Value.number literal).Legible) :
    ∃ kept, (Value.number literal).kept = .number kept ∧ IsVisible kept.toList ∧
      Respelled literal.toList kept.toList := by
  rcases Option.isSome_iff_exists.mp legible with ⟨kept, isKept⟩
  have reads := numberLiteral?_eq_some_iff.mp isKept
  rcases respelled_of_readNumber reads with ⟨written, spells, respelled⟩
  rw [List.append_nil] at spells
  exact ⟨kept, by rw [Value.kept, isKept, Option.getD_some], isVisible_of_readNumber reads,
    spells ▸ respelled⟩

theorem isVisible_escapeChar (c : Char) : IsVisible (escapeChar c) := by
  have digit : ∀ value < 16, 0x20 ≤ (Nat.digitChar value).toNat := by decide
  unfold escapeChar
  split_ifs with _ _ _ _ _ _ _ control
  iterate 7 · decide
  · simp only [isVisible_cons]
    exact ⟨by decide, by decide, by decide, by decide, digit _ (by omega), digit _ (by omega),
      isVisible_nil⟩
  · exact isVisible_cons.mpr ⟨Nat.le_of_not_lt control, isVisible_nil⟩

theorem isVisible_writeText (content : String) : IsVisible (writeText content) := by
  have inside : IsVisible (content.toList.flatMap escapeChar) := by
    intro c isIn
    rcases List.mem_flatMap.mp isIn with ⟨escaped, -, among⟩
    exact isVisible_escapeChar escaped c among
  rw [writeText, isVisible_cons, isVisible_append]
  exact ⟨by decide, inside, isVisible_cons.mpr ⟨by decide, isVisible_nil⟩⟩

end

mutual

theorem isVisible_chars (value : Value) (legible : value.Legible) : IsVisible value.chars := by
  cases value with
  | null => rw [Value.chars]; decide
  | bool value => cases value <;> (rw [Value.chars]; decide)
  | number literal =>
      rcases respelled_of_legible legible with ⟨kept, -, visible, respelled⟩
      exact respelled.isVisible visible
  | text content => exact isVisible_writeText content
  | array items =>
      cases items with
      | nil => rw [Value.chars]; decide
      | cons item rest =>
          rw [Value.chars, isVisible_cons, isVisible_append]
          exact ⟨by decide, isVisible_chars item legible.1, isVisible_itemChars rest legible.2⟩
  | object members =>
      cases members with
      | nil => rw [Value.chars]; decide
      | cons member rest =>
          rw [Value.chars, isVisible_cons, isVisible_append, isVisible_cons, isVisible_append]
          exact ⟨by decide, isVisible_writeText member.1, by decide,
            isVisible_chars member.2 legible.1, isVisible_memberChars rest legible.2⟩

theorem isVisible_itemChars (items : List Value) (legible : Value.ItemsLegible items) :
    IsVisible (Value.itemChars items) := by
  cases items with
  | nil => rw [Value.itemChars]; decide
  | cons item rest =>
      rw [Value.itemChars, isVisible_cons, isVisible_append]
      exact ⟨by decide, isVisible_chars item legible.1, isVisible_itemChars rest legible.2⟩

theorem isVisible_memberChars (members : List (String × Value))
    (legible : Value.MembersLegible members) : IsVisible (Value.memberChars members) := by
  cases members with
  | nil => rw [Value.memberChars]; decide
  | cons member rest =>
      rw [Value.memberChars, isVisible_cons, isVisible_append, isVisible_cons, isVisible_append]
      exact ⟨by decide, isVisible_writeText member.1, by decide,
        isVisible_chars member.2 legible.1, isVisible_memberChars rest legible.2⟩

end

theorem isVisible_write {value : Value} (legible : value.Legible) :
    IsVisible value.write.toList := by
  rw [Value.write, String.toList_ofList]
  exact isVisible_chars value legible

/-! ## What a tree holds -/

namespace Tree

mutual

/-- The tree has the contents of the value, each in its place: the same texts,
the same numbers, the same items and the same members in turn. -/
inductive Holds : Tree → Value → Prop
  | null : Holds .null .null
  | bool (value : Bool) : Holds (.bool value) (.bool value)
  | number {kept literal : String} (respelled : Respelled literal.toList kept.toList) :
      Holds (.number kept) (.number literal)
  | text (content : String) : Holds (.text (some content)) (.text content)
  | array {trees : List Tree} {items : List Value} (each : ItemsHold trees items) :
      Holds (.array trees) (.array items)
  | object {trees : List (Option String × Tree)} {members : List (String × Value)}
      (each : MembersHold trees members) : Holds (.object trees) (.object members)

inductive ItemsHold : List Tree → List Value → Prop
  | nil : ItemsHold [] []
  | cons {tree : Tree} {item : Value} {trees : List Tree} {items : List Value}
      (first : Holds tree item) (others : ItemsHold trees items) :
      ItemsHold (tree :: trees) (item :: items)

inductive MembersHold : List (Option String × Tree) → List (String × Value) → Prop
  | nil : MembersHold [] []
  | cons {name : String} {tree : Tree} {value : Value} {trees : List (Option String × Tree)}
      {members : List (String × Value)} (first : Holds tree value)
      (others : MembersHold trees members) :
      MembersHold ((some name, tree) :: trees) ((name, value) :: members)

end

namespace MembersHold

variable {trees : List (Option String × Tree)} {members : List (String × Value)}

theorem names (each : MembersHold trees members) :
    trees.map (·.1) = (members.map (·.1)).map some := by
  induction members generalizing trees with
  | nil =>
      cases each
      rfl
  | cons member members induction =>
      cases each with
      | cons first others => exact congrArg (_ :: ·) (induction others)

theorem exists_of_tree (each : MembersHold trees members) {tree : Option String × Tree}
    (isIn : tree ∈ trees) :
    ∃ name value, (name, value) ∈ members ∧ tree.1 = some name ∧ tree.2.Holds value := by
  induction members generalizing trees with
  | nil =>
      cases each
      cases isIn
  | cons member members induction =>
      cases each with
      | cons first others =>
          rcases List.mem_cons.mp isIn with rfl | isIn
          · exact ⟨_, _, List.mem_cons_self, rfl, first⟩
          · rcases induction others isIn with ⟨name, value, there, holds⟩
            exact ⟨name, value, List.mem_cons_of_mem _ there, holds⟩

theorem exists_of_member (each : MembersHold trees members) {name : String} {value : Value}
    (isIn : (name, value) ∈ members) : ∃ tree, (some name, tree) ∈ trees ∧ tree.Holds value := by
  induction members generalizing trees with
  | nil => cases isIn
  | cons member members induction =>
      cases each with
      | cons first others =>
          rcases List.mem_cons.mp isIn with same | isIn
          · cases same
            exact ⟨_, List.mem_cons_self, first⟩
          · rcases induction others isIn with ⟨tree, there, holds⟩
            exact ⟨tree, List.mem_cons_of_mem _ there, holds⟩

end MembersHold

end Tree

mutual

theorem holds_kept (value : Value) (legible : value.Legible) : value.kept.tree.Holds value := by
  cases value with
  | null => exact .null
  | bool value => exact .bool value
  | number literal =>
      rcases respelled_of_legible legible with ⟨kept, isKept, -, respelled⟩
      rw [isKept]
      exact .number respelled
  | text content => exact .text content
  | array items => exact .array (hold_keptItems items legible)
  | object members => exact .object (hold_keptMembers members legible)

theorem hold_keptItems (items : List Value) (legible : Value.ItemsLegible items) :
    Tree.ItemsHold (Value.itemTrees (Value.keptItems items)) items := by
  cases items with
  | nil => exact .nil
  | cons item rest => exact .cons (holds_kept item legible.1) (hold_keptItems rest legible.2)

theorem hold_keptMembers (members : List (String × Value))
    (legible : Value.MembersLegible members) :
    Tree.MembersHold (Value.memberTrees (Value.keptMembers members)) members := by
  cases members with
  | nil => exact .nil
  | cons member rest =>
      exact .cons (holds_kept member.2 legible.1) (hold_keptMembers rest legible.2)

end

/-! ## Paths -/

/-- What stands in the tree at the end of a path of names and has no members
itself. -/
inductive Tree.Leaf : Tree → List String → Tree → Prop
  | here {tree : Tree} (bare : ∀ member members, tree ≠ .object (member :: members)) :
      Leaf tree [] tree
  | inside {members : List (Option String × Tree)} {name : String} {content : Tree}
      {path : List String} {leaf : Tree} (isIn : (some name, content) ∈ members)
      (reaches : Leaf content path leaf) : Leaf (.object members) (name :: path) leaf

section

variable {members : List (String × Value)} {path : List String} {leaf : Tree}

theorem leaf_iff_of_ne_object {tree : Tree} (bare : ∀ members, tree ≠ .object members) :
    tree.Leaf path leaf ↔ path = [] ∧ leaf = tree := by
  constructor
  · intro reaches
    cases reaches with
    | here => exact ⟨rfl, rfl⟩
    | inside => exact absurd rfl (bare _)
  · rintro ⟨rfl, rfl⟩
    exact .here fun _ _ => bare _

theorem mem_keptMembers_iff {name : String} {tree : Tree} :
    (some name, tree) ∈ Value.memberTrees (Value.keptMembers members) ↔
      ∃ value, (name, value) ∈ members ∧ tree = value.kept.tree := by
  induction members with
  | nil => simp [Value.keptMembers, Value.memberTrees]
  | cons member members induction =>
      simp only [Value.keptMembers, Value.memberTrees, List.mem_cons, induction, Prod.mk.injEq,
        Option.some.injEq]
      constructor
      · rintro (⟨rfl, rfl⟩ | ⟨value, isIn, rfl⟩)
        · exact ⟨member.2, .inl rfl, rfl⟩
        · exact ⟨value, .inr isIn, rfl⟩
      · rintro ⟨value, rfl | isIn, rfl⟩
        · exact .inl ⟨rfl, rfl⟩
        · exact .inr ⟨value, isIn, rfl⟩

theorem leaf_kept_object_iff (filled : members ≠ []) :
    (Value.object members).kept.tree.Leaf path leaf ↔
      ∃ name value rest, path = name :: rest ∧ (name, value) ∈ members ∧
        value.kept.tree.Leaf rest leaf := by
  constructor
  · intro reaches
    cases reaches with
    | here bare =>
        cases members with
        | nil => exact absurd rfl filled
        | cons member members => exact absurd rfl (bare _ _)
    | inside isIn reaches =>
        rcases mem_keptMembers_iff.mp isIn with ⟨value, isMember, rfl⟩
        exact ⟨_, value, _, rfl, isMember, reaches⟩
  · rintro ⟨name, value, rest, rfl, isIn, reaches⟩
    exact .inside (mem_keptMembers_iff.mpr ⟨value, isIn, rfl⟩) reaches

theorem leaf_of_member {name : String} {value : Value}
    (isIn : (name, value) ∈ members) (reaches : value.kept.tree.Leaf path leaf) :
    (Value.object members).kept.tree.Leaf (name :: path) leaf :=
  (leaf_kept_object_iff (List.ne_nil_of_mem isIn)).mpr ⟨_, _, _, rfl, isIn, reaches⟩

theorem leaf_text_iff {content : String} :
    (Value.text content).kept.tree.Leaf path leaf ↔ path = [] ∧ leaf = .text (some content) :=
  leaf_iff_of_ne_object fun _ => Tree.noConfusion

theorem leaf_bool_iff {value : Bool} :
    (Value.bool value).kept.tree.Leaf path leaf ↔ path = [] ∧ leaf = .bool value :=
  leaf_iff_of_ne_object fun _ => Tree.noConfusion

theorem leaf_ofText?_iff {content : Option String} :
    (Value.ofText? content).kept.tree.Leaf path leaf ↔
      path = [] ∧ leaf = content.elim .null fun content => .text (some content) := by
  cases content with
  | none => exact leaf_iff_of_ne_object fun _ => Tree.noConfusion
  | some content => exact leaf_text_iff

theorem leaf_of_text (content : String) :
    (Value.text content).kept.tree.Leaf [] (.text content) :=
  leaf_text_iff.mpr ⟨rfl, rfl⟩

end

/-! ## Dynamic documents -/

namespace Value

mutual

/-- A dynamic document that holds the value can be read: containers are nested
no deeper than `depth`, and no object opens with the key of a number. -/
def Fits (depth : Nat) : Value → Prop
  | .array items => 0 < depth ∧ ItemsFit (depth - 1) items
  | .object members =>
      0 < depth ∧ (members.head?.map (·.1) ≠ some numberKey) ∧ MembersFit (depth - 1) members
  | .null | .bool _ | .number _ | .text _ => True

def ItemsFit (depth : Nat) : List Value → Prop
  | [] => True
  | item :: rest => item.Fits depth ∧ ItemsFit depth rest

def MembersFit (depth : Nat) : List (String × Value) → Prop
  | [] => True
  | (_, value) :: rest => value.Fits depth ∧ MembersFit depth rest

end

theorem membersFit_iff {depth : Nat} {members : List (String × Value)} :
    MembersFit depth members ↔ ∀ member ∈ members, member.2.Fits depth := by
  induction members with
  | nil => simp [MembersFit]
  | cons member rest induction => simp [MembersFit, induction]

theorem opensWithNumberKey_keptMembers (members : List (String × Value)) :
    opensWithNumberKey (memberTrees (keptMembers members)) =
      (members.head?.map (·.1) == some numberKey) := by
  cases members <;> rfl

end Value

mutual

theorem value?_kept (depth : Nat) (value : Value) (fits : value.Fits depth) :
    value.kept.tree.value? depth = some value.kept.sorted := by
  cases value with
  | null | bool | number | text => rfl
  | array items =>
      rcases depth with - | depth
      · exact absurd fits.1 (Nat.lt_irrefl 0)
      · rw [Value.kept, Value.tree, Tree.value?, itemValues?_kept depth items fits.2]
        rfl
  | object members =>
      rcases depth with - | depth
      · exact absurd fits.1 (Nat.lt_irrefl 0)
      · rw [Value.kept, Value.tree, Tree.value?, Value.opensWithNumberKey_keptMembers,
          beq_false_of_ne fits.2.1, if_neg Bool.false_ne_true,
          memberValues?_kept depth members fits.2.2]
        rfl

theorem itemValues?_kept (depth : Nat) (items : List Value) (fits : Value.ItemsFit depth items) :
    itemValues? depth (Value.itemTrees (Value.keptItems items)) =
      some (Value.sortedItems (Value.keptItems items)) := by
  cases items with
  | nil => rfl
  | cons item rest =>
      rw [Value.keptItems, Value.itemTrees, itemValues?, value?_kept depth item fits.1,
        itemValues?_kept depth rest fits.2]
      rfl

theorem memberValues?_kept (depth : Nat) (members : List (String × Value))
    (fits : Value.MembersFit depth members) :
    memberValues? depth (Value.memberTrees (Value.keptMembers members)) =
      some (Value.sortedMembers (Value.keptMembers members)) := by
  cases members with
  | nil => rfl
  | cons member rest =>
      rw [Value.keptMembers, Value.memberTrees, memberValues?, value?_kept depth member.2 fits.1,
        memberValues?_kept depth rest fits.2]
      rfl

end

theorem read_write {value : Value} (legible : value.Legible) (fits : value.Fits nestingLimit) :
    read value.write = .ok value.kept.sorted := by
  rw [read, Tree.ofText?_write_kept legible, Option.bind_some, value?_kept nestingLimit value fits]

end RedemptionRelay.Json

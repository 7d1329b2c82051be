import RedemptionRelay.Json.Writer
import RedemptionRelay.Proofs.Json.Number

/-! # What is written is read

The text of a value spells out that value and nothing else, whatever closing
mark follows it: strings of any characters, nested arrays and objects, and the
literals of numbers in the spelling that is kept.
-/

namespace RedemptionRelay.Json

/-! ## Strings -/

def Piece.Spells (piece : Piece) (c : Char) : Prop :=
  ∀ pieces, joinPieces (piece :: pieces) = (joinPieces pieces).map (c :: ·)

theorem spells_character (c : Char) : (Piece.character c).Spells c :=
  fun _ => rfl

theorem spells_unit {c : Char} (control : c.toNat < 0x20) : (Piece.unit c.toNat).Spells c := by
  intro pieces
  have notHigh : isHighSurrogate c.toNat = false := by
    unfold isHighSurrogate
    rw [decide_eq_false (by omega), Bool.false_and]
  have notLow : isLowSurrogate c.toNat = false := by
    unfold isLowSurrogate
    rw [decide_eq_false (by omega), Bool.false_and]
  rw [joinPieces.eq_def]
  simp [notHigh, notLow]

theorem read?_hexDigits : ∀ code < 0x20,
    Digits.read? 16 ['0', '0', Nat.digitChar (code / 16), Nat.digitChar (code % 16)] =
      some code := by
  decide

section Escapes

variable (tail : List Char)

theorem readPieces_named {c letter : Char} (means : simpleEscape? letter = some c) :
    readPieces ('\\' :: letter :: tail) =
      (readPieces tail).map fun read => (.character c :: read.1, read.2) := by
  rw [readPieces.eq_def]
  split
  · next nothing => cases nothing
  · next quote => cases quote
  · next unit => cases unit; cases means
  · next same =>
      cases same
      rw [means]
      cases readPieces tail <;> rfl
  · next noEscape same =>
      cases same
      exact (noEscape _ _ rfl rfl).elim

theorem readPieces_unit {code : Nat} (control : code < 0x20) :
    readPieces
        ('\\' :: 'u' :: '0' :: '0' :: Nat.digitChar (code / 16) :: Nat.digitChar (code % 16) ::
          tail) =
      (readPieces tail).map fun read => (.unit code :: read.1, read.2) := by
  rw [readPieces.eq_def]
  simp only [read?_hexDigits code control]
  cases readPieces tail <;> rfl

theorem readPieces_plain {c : Char} (notQuote : c ≠ '"') (notEscape : c ≠ '\\')
    (visible : ¬ c.toNat < 0x20) :
    readPieces (c :: tail) =
      (readPieces tail).map fun read => (.character c :: read.1, read.2) := by
  rw [readPieces.eq_def]
  split
  · next nothing => cases nothing
  · next quote => exact absurd (List.cons.inj quote).1 notQuote
  · next unit => exact absurd (List.cons.inj unit).1 notEscape
  · next escape => exact absurd (List.cons.inj escape).1 notEscape
  · next same =>
      cases same
      rw [if_neg visible]
      cases readPieces tail <;> rfl

theorem readPieces_escapeChar (c : Char) :
    ∃ piece : Piece, piece.Spells c ∧
      readPieces (escapeChar c ++ tail) =
        (readPieces tail).map fun read => (piece :: read.1, read.2) := by
  have ofCode {code : Nat} (same : c.toNat = code) : c = Char.ofNat code := by
    rw [← same, Char.ofNat_toNat]
  unfold escapeChar
  split
  · next quote => exact ⟨_, spells_character c, readPieces_named tail (by rw [quote]; rfl)⟩
  split
  · next backslash => exact ⟨_, spells_character c, readPieces_named tail (by rw [backslash]; rfl)⟩
  split
  · next code => exact ⟨_, spells_character c, readPieces_named tail (by rw [ofCode code]; rfl)⟩
  split
  · next code => exact ⟨_, spells_character c, readPieces_named tail (by rw [ofCode code]; rfl)⟩
  split
  · next code => exact ⟨_, spells_character c, readPieces_named tail (by rw [ofCode code]; rfl)⟩
  split
  · next code => exact ⟨_, spells_character c, readPieces_named tail (by rw [ofCode code]; rfl)⟩
  split
  · next code => exact ⟨_, spells_character c, readPieces_named tail (by rw [ofCode code]; rfl)⟩
  split
  · next control => exact ⟨_, spells_unit control, readPieces_unit tail control⟩
  · next notQuote notEscape _ _ _ _ _ visible =>
      exact ⟨_, spells_character c, readPieces_plain tail notQuote notEscape visible⟩

end Escapes

theorem readPieces_escaped (content tail : List Char) :
    ∃ pieces, joinPieces pieces = some content ∧
      readPieces (content.flatMap escapeChar ++ '"' :: tail) = some (pieces, tail) := by
  induction content with
  | nil => exact ⟨[], rfl, by rw [readPieces.eq_def]; rfl⟩
  | cons c content induction =>
      rcases induction with ⟨pieces, spells, reads⟩
      rw [List.flatMap_cons, List.append_assoc]
      rcases readPieces_escapeChar (content.flatMap escapeChar ++ '"' :: tail) c with
        ⟨piece, spellsFirst, readsFirst⟩
      refine ⟨piece :: pieces, ?_, ?_⟩
      · rw [spellsFirst, spells]
        rfl
      · rw [readsFirst, reads]
        rfl

theorem readText_writeText (content : String) (tail : List Char) :
    ∃ inside, writeText content ++ tail = '"' :: inside ∧
      readText inside = some (some content, tail) := by
  refine ⟨content.toList.flatMap escapeChar ++ '"' :: tail, by simp [writeText], ?_⟩
  rcases readPieces_escaped content.toList tail with ⟨pieces, spells, reads⟩
  simp [readText, reads, spells]

/-! ## Values -/

namespace Value

mutual

def tree : Value → Tree
  | .null => .null
  | .bool value => .bool value
  | .number literal => .number literal
  | .text content => .text (some content)
  | .array items => .array (itemTrees items)
  | .object members => .object (memberTrees members)

def itemTrees : List Value → List Tree
  | [] => []
  | item :: rest => item.tree :: itemTrees rest

def memberTrees : List (String × Value) → List (Option String × Tree)
  | [] => []
  | (name, value) :: rest => (some name, value.tree) :: memberTrees rest

end

mutual

def Spelled : Value → Prop
  | .number literal => IsNumeral literal
  | .array items => ItemsSpelled items
  | .object members => MembersSpelled members
  | .null | .bool _ | .text _ => True

def ItemsSpelled : List Value → Prop
  | [] => True
  | item :: rest => item.Spelled ∧ ItemsSpelled rest

def MembersSpelled : List (String × Value) → Prop
  | [] => True
  | (_, value) :: rest => value.Spelled ∧ MembersSpelled rest

end

theorem spelled_ofNat (value : Nat) : (ofNat value).Spelled :=
  isNumeral_repr value

mutual

/-- Every number in the value is one, in any spelling. -/
def Legible : Value → Prop
  | .number literal => (numberLiteral? literal).isSome
  | .array items => ItemsLegible items
  | .object members => MembersLegible members
  | .null | .bool _ | .text _ => True

def ItemsLegible : List Value → Prop
  | [] => True
  | item :: rest => item.Legible ∧ ItemsLegible rest

def MembersLegible : List (String × Value) → Prop
  | [] => True
  | (_, value) :: rest => value.Legible ∧ MembersLegible rest

end

theorem membersLegible_iff {members : List (String × Value)} :
    MembersLegible members ↔ ∀ member ∈ members, member.2.Legible := by
  induction members with
  | nil => simp [MembersLegible]
  | cons member rest induction => simp [MembersLegible, induction]

mutual

/-- The value with its numbers spelled as they are kept. -/
def kept : Value → Value
  | .number literal => .number ((numberLiteral? literal).getD literal)
  | .array items => .array (keptItems items)
  | .object members => .object (keptMembers members)
  | value => value

def keptItems : List Value → List Value
  | [] => []
  | item :: rest => item.kept :: keptItems rest

def keptMembers : List (String × Value) → List (String × Value)
  | [] => []
  | (name, value) :: rest => (name, value.kept) :: keptMembers rest

end

mutual

theorem Spelled.legible (value : Value) (spelled : value.Spelled) : value.Legible := by
  cases value with
  | null | bool | text => trivial
  | number literal =>
      rw [Legible, IsNumeral.literal? spelled]
      rfl
  | array items => exact ItemsSpelled.legible items spelled
  | object members => exact MembersSpelled.legible members spelled

theorem ItemsSpelled.legible (items : List Value) (spelled : ItemsSpelled items) :
    ItemsLegible items := by
  cases items with
  | nil => trivial
  | cons item rest => exact ⟨Spelled.legible item spelled.1, ItemsSpelled.legible rest spelled.2⟩

theorem MembersSpelled.legible (members : List (String × Value))
    (spelled : MembersSpelled members) : MembersLegible members := by
  cases members with
  | nil => trivial
  | cons member rest =>
      exact ⟨Spelled.legible member.2 spelled.1, MembersSpelled.legible rest spelled.2⟩

end

mutual

theorem Spelled.kept_eq (value : Value) (spelled : value.Spelled) : value.kept = value := by
  cases value with
  | null | bool | text => rfl
  | number literal =>
      rw [kept, IsNumeral.literal? spelled]
      rfl
  | array items => rw [kept, ItemsSpelled.kept_eq items spelled]
  | object members => rw [kept, MembersSpelled.kept_eq members spelled]

theorem ItemsSpelled.kept_eq (items : List Value) (spelled : ItemsSpelled items) :
    keptItems items = items := by
  cases items with
  | nil => rfl
  | cons item rest =>
      rw [keptItems, Spelled.kept_eq item spelled.1, ItemsSpelled.kept_eq rest spelled.2]

theorem MembersSpelled.kept_eq (members : List (String × Value))
    (spelled : MembersSpelled members) : keptMembers members = members := by
  cases members with
  | nil => rfl
  | cons member rest =>
      rw [keptMembers, Spelled.kept_eq member.2 spelled.1, MembersSpelled.kept_eq rest spelled.2]

end

end Value

theorem closes_itemChars (items : List Value) (rest : List Char) :
    Closes (Value.itemChars items ++ rest) := by
  cases items <;> exact closes_cons (by simp)

theorem closes_memberChars (members : List (String × Value)) (rest : List Char) :
    Closes (Value.memberChars members ++ rest) := by
  cases members with
  | nil => exact closes_cons (by simp)
  | cons member members => exact closes_cons (by simp)

theorem skipBlanks_cons {c : Char} (visible : isBlank c = false) (rest : List Char) :
    skipBlanks (c :: rest) = c :: rest := by
  simp [skipBlanks, visible]

theorem chars_head {value : Value} (legible : value.Legible) :
    ∃ c rest, value.chars = c :: rest ∧ isBlank c = false ∧ c ≠ ']' ∧ c ≠ '\x7d' := by
  cases value with
  | null => exact ⟨_, _, by rw [Value.chars], by decide⟩
  | bool value => cases value <;> exact ⟨_, _, by rw [Value.chars], by decide⟩
  | text content => exact ⟨_, _, by rw [Value.chars, writeText], by decide⟩
  | array items => cases items <;> exact ⟨_, _, by rw [Value.chars], by decide⟩
  | object members =>
      cases members with
      | nil => exact ⟨_, _, by rw [Value.chars], by decide⟩
      | cons member members => exact ⟨_, _, by rw [Value.chars], by decide⟩
  | number literal =>
      rcases Option.isSome_iff_exists.mp legible with ⟨kept, isKept⟩
      have reads := numberLiteral?_eq_some_iff.mp isKept
      rcases exists_head_of_readNumber reads with ⟨c, rest, spells, minus | digit⟩
      · exact ⟨c, rest, spells, by rw [minus]; decide⟩
      · refine ⟨c, rest, spells, ?_, ?_, ?_⟩
        · cases blank : isBlank c with
          | false => rfl
          | true =>
              simp only [isBlank, Bool.or_eq_true, beq_iff_eq] at blank
              rcases blank with ((rfl | rfl) | rfl) | rfl <;> cases digit
        · rintro rfl
          cases digit
        · rintro rfl
          cases digit

theorem chars_pos {value : Value} (legible : value.Legible) : 0 < value.chars.length := by
  rcases chars_head legible with ⟨c, rest, spells, -⟩
  simp [spells]

theorem itemChars_pos (items : List Value) : 0 < (Value.itemChars items).length := by
  cases items <;> simp [Value.itemChars]

theorem memberChars_pos (members : List (String × Value)) :
    0 < (Value.memberChars members).length := by
  cases members <;> simp [Value.memberChars]

/-- With this much fuel, texts of at most that length are read in full. -/
structure Reads (fuel : Nat) : Prop where
  value : ∀ (value : Value) (rest : List Char), value.Legible → Closes rest →
    value.chars.length ≤ fuel →
      readTree fuel (value.chars ++ rest) = some (value.kept.tree, rest)
  items : ∀ (item : Value) (items : List Value) (rest : List Char), item.Legible →
    Value.ItemsLegible items →
      item.chars.length + (Value.itemChars items).length ≤ fuel →
        readItems fuel (item.chars ++ (Value.itemChars items ++ rest)) =
          some (item.kept.tree :: Value.itemTrees (Value.keptItems items), rest)
  members : ∀ (name : String) (value : Value) (members : List (String × Value))
    (rest : List Char), value.Legible → Value.MembersLegible members →
      value.chars.length + (Value.memberChars members).length ≤ fuel →
        readMembers fuel
            (writeText name ++ ':' :: (value.chars ++ (Value.memberChars members ++ rest))) =
          some ((some name, value.kept.tree) :: Value.memberTrees (Value.keptMembers members), rest)

namespace Reads

variable {fuel : Nat} {rest : List Char}

theorem number {literal : String} (legible : (Value.number literal).Legible)
    (closes : Closes rest) :
    readTree (fuel + 1) (literal.toList ++ rest) =
      some ((Value.number literal).kept.tree, rest) := by
  rcases Option.isSome_iff_exists.mp legible with ⟨kept, isKept⟩
  have numeral := numberLiteral?_eq_some_iff.mp isKept
  have reads : readNumber (literal.toList ++ rest) = some (kept, rest) :=
    readNumber_append closes numeral
  rcases chars_head legible with ⟨c, others, spells, visible, -⟩
  have spells : literal.toList = c :: others := spells
  rcases exists_head_of_readNumber numeral with ⟨first, _, spells', start⟩
  rw [Value.kept, isKept, Option.getD_some, Value.tree]
  cases spells.symm.trans spells'
  rw [spells] at reads ⊢
  rw [readTree, List.cons_append, skipBlanks_cons visible]
  rw [List.cons_append] at reads
  split
  case h_7 => simp [reads]
  all_goals
    next same =>
      rcases start with minus | digit
      · exact absurd ((List.cons.inj same).1.symm.trans minus) (by decide)
      · rw [(List.cons.inj same).1] at digit
        cases digit

theorem text (content : String) :
    readTree (fuel + 1) (writeText content ++ rest) = some (.text (some content), rest) := by
  rcases readText_writeText content rest with ⟨inside, opens, reads⟩
  rw [opens, readTree, skipBlanks_cons (by decide)]
  simp [reads]

theorem array (reads : Reads fuel) {item : Value} {items : List Value} (legible : item.Legible)
    (othersLegible : Value.ItemsLegible items)
    (enough : (Value.array (item :: items)).chars.length ≤ fuel + 1) :
    readTree (fuel + 1) ((Value.array (item :: items)).chars ++ rest) =
      some ((Value.array (item :: items)).kept.tree, rest) := by
  have short : item.chars.length + (Value.itemChars items).length ≤ fuel := by
    simpa [Value.chars] using enough
  have inside := reads.items item items rest legible othersLegible short
  rcases chars_head legible with ⟨c, others, spells, visible, notClosed, -⟩
  rw [Value.chars, List.cons_append, List.append_assoc]
  rw [spells, List.cons_append] at inside ⊢
  rw [readTree, skipBlanks_cons (by decide)]
  simp only [skipBlanks_cons visible]
  split
  · next closed => exact absurd (List.cons.inj closed).1 notClosed
  · rw [inside]
    rfl

theorem object (reads : Reads fuel) {name : String} {value : Value}
    {members : List (String × Value)} (legible : value.Legible)
    (othersLegible : Value.MembersLegible members)
    (enough : (Value.object ((name, value) :: members)).chars.length ≤ fuel + 1) :
    readTree (fuel + 1) ((Value.object ((name, value) :: members)).chars ++ rest) =
      some ((Value.object ((name, value) :: members)).kept.tree, rest) := by
  have short : value.chars.length + (Value.memberChars members).length ≤ fuel := by
    simp only [Value.chars, List.length_cons, List.length_append] at enough
    omega
  have inside := reads.members name value members rest legible othersLegible short
  rcases readText_writeText name (':' :: (value.chars ++ (Value.memberChars members ++ rest))) with
    ⟨others, opens, -⟩
  rw [Value.chars, List.cons_append, List.append_assoc, List.cons_append, List.append_assoc]
  rw [opens] at inside ⊢
  rw [readTree, skipBlanks_cons (by decide)]
  simp only [skipBlanks_cons (c := '"') (by decide)]
  split
  · next closed => exact absurd (List.cons.inj closed).1 (by decide)
  · rw [inside]
    rfl

theorem of_value (reads : Reads fuel) (value : Value) (legible : value.Legible)
    (closes : Closes rest) (enough : value.chars.length ≤ fuel + 1) :
    readTree (fuel + 1) (value.chars ++ rest) = some (value.kept.tree, rest) := by
  cases value with
  | null => rfl
  | bool value => cases value <;> rfl
  | number literal => exact number legible closes
  | text content => exact text content
  | array items =>
      cases items with
      | nil => rfl
      | cons item items => exact reads.array legible.1 legible.2 enough
  | object members =>
      cases members with
      | nil => rfl
      | cons member members => exact reads.object legible.1 legible.2 enough

theorem of_items (reads : Reads fuel) (item : Value) (items : List Value) (legible : item.Legible)
    (othersLegible : Value.ItemsLegible items)
    (enough : item.chars.length + (Value.itemChars items).length ≤ fuel + 1) :
    readItems (fuel + 1) (item.chars ++ (Value.itemChars items ++ rest)) =
      some (item.kept.tree :: Value.itemTrees (Value.keptItems items), rest) := by
  have positive := itemChars_pos items
  have first := reads.value item (Value.itemChars items ++ rest) legible
    (closes_itemChars items rest) (by omega)
  rw [readItems, first]
  cases items with
  | nil => rfl
  | cons next items =>
      have short : next.chars.length + (Value.itemChars items).length ≤ fuel := by
        have positiveFirst := chars_pos legible
        simp only [Value.itemChars, List.length_cons, List.length_append] at enough
        omega
      have others := reads.items next items rest othersLegible.1 othersLegible.2 short
      rw [Value.itemChars, List.cons_append, List.append_assoc]
      simp only [Option.bind_eq_bind, Option.bind_some]
      rw [skipBlanks_cons (by decide)]
      simp only [others]
      rfl

theorem of_members (reads : Reads fuel) (name : String) (value : Value)
    (members : List (String × Value)) (legible : value.Legible)
    (othersLegible : Value.MembersLegible members)
    (enough : value.chars.length + (Value.memberChars members).length ≤ fuel + 1) :
    readMembers (fuel + 1)
        (writeText name ++ ':' :: (value.chars ++ (Value.memberChars members ++ rest))) =
      some ((some name, value.kept.tree) :: Value.memberTrees (Value.keptMembers members),
        rest) := by
  have positive := memberChars_pos members
  have first := reads.value value (Value.memberChars members ++ rest) legible
    (closes_memberChars members rest) (by omega)
  rcases readText_writeText name (':' :: (value.chars ++ (Value.memberChars members ++ rest))) with
    ⟨inside, opens, readsName⟩
  rw [opens, readMembers, skipBlanks_cons (by decide)]
  simp only [readsName, Option.bind_eq_bind, Option.bind_some]
  rw [skipBlanks_cons (by decide)]
  simp only [first, Option.bind_some]
  cases members with
  | nil => rfl
  | cons next members =>
      have short : next.2.chars.length + (Value.memberChars members).length ≤ fuel := by
        have positiveFirst := chars_pos legible
        simp only [Value.memberChars, List.length_cons, List.length_append] at enough
        omega
      have others := reads.members next.1 next.2 members rest othersLegible.1 othersLegible.2 short
      rw [Value.memberChars, List.cons_append, List.append_assoc, List.cons_append,
        List.append_assoc, skipBlanks_cons (by decide)]
      simp only [others]
      rfl

/-- A fuel of as many units as there are characters is enough: every value that
is read inside another one has a character of its own before it. -/
theorem of_fuel (fuel : Nat) : Reads fuel := by
  induction fuel with
  | zero =>
      constructor
      · intro value rest legible _ enough
        exact absurd (chars_pos legible) (by omega)
      · intro item items rest legible _ enough
        exact absurd (chars_pos legible) (by omega)
      · intro name value members rest legible _ enough
        exact absurd (chars_pos legible) (by omega)
  | succ fuel reads =>
      constructor
      · exact fun value rest legible closes enough => reads.of_value value legible closes enough
      · exact fun item items rest legible others enough =>
          reads.of_items item items legible others enough
      · exact fun name value members rest legible others enough =>
          reads.of_members name value members legible others enough

end Reads

theorem Tree.ofText?_write_kept {value : Value} (legible : value.Legible) :
    Tree.ofText? value.write = some value.kept.tree := by
  have reads := (Reads.of_fuel (2 * value.chars.length + 2)).value value [] legible closes_nil
    (by omega)
  rw [List.append_nil] at reads
  unfold Tree.ofText? Value.write
  rw [String.toList_ofList, Tree.ofChars?, reads]
  rfl

theorem Tree.ofText?_write {value : Value} (spelled : value.Spelled) :
    Tree.ofText? value.write = some value.tree := by
  rw [Tree.ofText?_write_kept spelled.legible, spelled.kept_eq]

end RedemptionRelay.Json

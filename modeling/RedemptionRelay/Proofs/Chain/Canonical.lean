import RedemptionRelay.Proofs.Chain.Meaning

/-! # One form for each hash

Spellings of the same hash are kept in the same form, and others are not. On the
chains with hexadecimal hashes that form is a spelling itself, which is kept as
it is.
-/

namespace RedemptionRelay

namespace ChainKind

/-- Two spellings of one hash: its number counts on StarkNet, its digits count on
the other chains with hexadecimal hashes, and every mark counts elsewhere. -/
def SameHash (kind : ChainKind) (raw other : String) : Prop :=
  match kind with
  | .solana | .sui => raw = other
  | .evm | .sei =>
      ∃ digits others number otherNumber, SpellsHash raw digits number ∧
        SpellsHash other others otherNumber ∧
          digits.map Char.toLower = others.map Char.toLower
  | .starknet =>
      ∃ digits others number, SpellsHash raw digits number ∧ SpellsHash other others number

def IsHexadecimal (kind : ChainKind) : Prop :=
  kind ≠ .solana ∧ kind ≠ .sui

def kept (kind : ChainKind) (digits : List Char) (number : Nat) : List Char :=
  if kind = .starknet then Nat.toDigits 16 number else digits.map Char.toLower

section

variable {kind : ChainKind} {raw other hash : String} {digits others : List Char}
  {number otherNumber : Nat}

theorem spellsHash_marked (denotes : Digits.Denote 16 digits number) :
    SpellsHash (String.ofList ('0' :: 'x' :: digits)) digits number := by
  refine ⟨digits, ?_, .bare, denotes⟩
  rw [String.toList_ofList]
  exact .mark .bare

theorem SpellsHash.unique (spells : SpellsHash raw digits number)
    (spellsOther : SpellsHash raw others otherNumber) : digits = others ∧ number = otherNumber := by
  have same : digits = others :=
    (hashDigits_of_spellsHash spells).symm.trans (hashDigits_of_spellsHash spellsOther)
  subst same
  rcases spells with ⟨_, -, -, denotes⟩
  rcases spellsOther with ⟨_, -, -, denotesOther⟩
  exact ⟨rfl, denotes.unique (by decide) denotesOther⟩

theorem denote_kept (denotes : Digits.Denote 16 digits number) :
    Digits.Denote 16 (kind.kept digits number) number := by
  unfold kept
  split
  · exact Digits.denote_of_lowers (by decide) (Digits.map_toLower_toDigits number)
  · exact denotes.map_toLower

theorem map_toLower_kept (denotes : Digits.Denote 16 digits number) :
    (kind.kept digits number).map Char.toLower = kind.kept digits number := by
  unfold kept
  split
  · exact Digits.map_toLower_toDigits number
  · exact denotes.map_toLower_map_toLower

theorem kept_kept (denotes : Digits.Denote 16 digits number) :
    kind.kept (kind.kept digits number) number = kind.kept digits number := by
  by_cases isStarkNet : kind = .starknet
  · simp only [kept, if_pos isStarkNet]
  · simp only [kept, if_neg isStarkNet, denotes.map_toLower_map_toLower]

theorem kept_starknet_inj :
    starknet.kept digits number = starknet.kept others otherNumber ↔ number = otherNumber := by
  constructor
  · intro same
    have denotes (number : Nat) : Digits.Denote 16 (Nat.toDigits 16 number) number :=
      Digits.denote_of_lowers (by decide) (Digits.map_toLower_toDigits number)
    have written : Nat.toDigits 16 number = Nat.toDigits 16 otherNumber := same
    exact (denotes number).unique (by decide) (written ▸ denotes otherNumber)
  · rintro rfl
    rfl

theorem sameHash_iff_kept (hexadecimal : kind.IsHexadecimal) (spells : SpellsHash raw digits number)
    (spellsOther : SpellsHash other others otherNumber) :
    kind.SameHash raw other ↔ kind.kept digits number = kind.kept others otherNumber := by
  have lowered : (∃ digits others number otherNumber, SpellsHash raw digits number ∧
      SpellsHash other others otherNumber ∧
        digits.map Char.toLower = others.map Char.toLower) ↔
      digits.map Char.toLower = others.map Char.toLower := by
    constructor
    · rintro ⟨_, _, _, _, spells', spellsOther', same⟩
      rw [(spells.unique spells').1, (spellsOther.unique spellsOther').1]
      exact same
    · exact fun same => ⟨_, _, _, _, spells, spellsOther, same⟩
  cases kind with
  | solana => exact absurd rfl hexadecimal.1
  | sui => exact absurd rfl hexadecimal.2
  | evm | sei => exact lowered
  | starknet =>
      rw [kept_starknet_inj]
      constructor
      · rintro ⟨_, _, _, spells', spellsOther'⟩
        rw [(spells.unique spells').2, (spellsOther.unique spellsOther').2]
      · rintro rfl
        exact ⟨_, _, _, spells, spellsOther⟩

theorem normalizeHash_eq_ok_iff_kept (hexadecimal : kind.IsHexadecimal) :
    kind.normalizeHash raw = .ok hash ↔
      ∃ digits number, SpellsHash raw digits number ∧
        hash = String.ofList ('0' :: 'x' :: kind.kept digits number) :=
  normalizeHash_hexadecimal kind hexadecimal.1 hexadecimal.2

/-- The form in which a hexadecimal hash is kept: one mark, then lowercase digits,
on StarkNet with no zeros before them. It is a spelling of the same hash and it
stays as it is. -/
structure IsKeptAs (kind : ChainKind) (raw hash : String) : Prop where
  written : ∃ digits, hash = String.ofList ('0' :: 'x' :: digits) ∧ digits ≠ [] ∧
    ∀ c ∈ digits, c ∈ "0123456789abcdef".toList
  short : kind = .starknet → ∀ rest, hash = String.ofList ('0' :: 'x' :: '0' :: rest) → rest = []
  zero : kind = .starknet → ∀ digits, SpellsHash raw digits 0 → hash = "0x0"
  same : kind.SameHash raw hash
  stays : kind.normalizeHash hash = .ok hash

theorem marked_inj : String.ofList ('0' :: 'x' :: digits) = String.ofList ('0' :: 'x' :: others) ↔
    digits = others := by
  rw [String.ofList_inj, List.cons_inj_right, List.cons_inj_right]

theorem isKeptAs_of_normalizeHash (hexadecimal : kind.IsHexadecimal)
    (written : kind.normalizeHash raw = .ok hash) : kind.IsKeptAs raw hash := by
  rcases (normalizeHash_eq_ok_iff_kept hexadecimal).mp written with ⟨digits, number, spells, rfl⟩
  have denotes : Digits.Denote 16 digits number := by
    rcases spells with ⟨_, -, -, denotes⟩
    exact denotes
  have keeps : Digits.Denote 16 (kind.kept digits number) number := denote_kept denotes
  have spellsKept := spellsHash_marked keeps
  constructor
  case written =>
    have lowercase := keeps.mem_lowercase
    rw [map_toLower_kept denotes] at lowercase
    exact ⟨_, rfl, keeps.ne_nil, lowercase⟩
  case short =>
    rintro rfl rest isKept
    have isDigits : Nat.toDigits 16 number = '0' :: rest := marked_inj.mp isKept
    cases number with
    | zero => exact (List.cons.inj isDigits).2.symm
    | succ number =>
        have leads := congrArg List.head? isDigits
        exact absurd leads (Digits.head?_toDigits (by decide) (by decide) number.succ_pos)
  case zero =>
    rintro rfl zeros spellsZero
    rw [(spells.unique spellsZero).2]
    rfl
  case same =>
    rw [sameHash_iff_kept hexadecimal spells spellsKept, kept_kept denotes]
  case stays =>
    exact (normalizeHash_eq_ok_iff_kept hexadecimal).mpr
      ⟨_, number, spellsKept, by rw [kept_kept denotes]⟩

theorem eq_iff_sameHash {otherHash : String} (written : kind.normalizeHash raw = .ok hash)
    (writtenOther : kind.normalizeHash other = .ok otherHash) :
    hash = otherHash ↔ kind.SameHash raw other := by
  by_cases hexadecimal : kind.IsHexadecimal
  · rw [normalizeHash_eq_ok_iff_kept hexadecimal] at written writtenOther
    rcases written with ⟨digits, number, spells, rfl⟩
    rcases writtenOther with ⟨others, otherNumber, spellsOther, rfl⟩
    rw [marked_inj, sameHash_iff_kept hexadecimal spells spellsOther]
  · cases kind with
    | solana | sui =>
        cases written
        cases writtenOther
        rfl
    | evm | sei | starknet => exact absurd ⟨nofun, nofun⟩ hexadecimal

/-- Hashes are kept in the same form just if they are the same, and each
hexadecimal one in a form that is its own. -/
theorem normalizeHash_canonical {otherHash : String} (written : kind.normalizeHash raw = .ok hash)
    (writtenOther : kind.normalizeHash other = .ok otherHash) :
    (hash = otherHash ↔ kind.SameHash raw other) ∧
      (kind.IsHexadecimal → kind.IsKeptAs raw hash) :=
  ⟨eq_iff_sameHash written writtenOther,
    fun hexadecimal => isKeptAs_of_normalizeHash hexadecimal written⟩

theorem normalizeHash_canonical_of_zeros :
    ("0xab" = "0xab" ↔ starknet.SameHash "0x0X00Ab" "aB") ∧
      (starknet.IsHexadecimal → starknet.IsKeptAs "0x0X00Ab" "0xab") :=
  normalizeHash_canonical (by decide +kernel) (by decide +kernel)

end

end ChainKind

end RedemptionRelay

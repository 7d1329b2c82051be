import RedemptionRelay.Proofs.Amount
import RedemptionRelay.Proofs.Json.Structure
import RedemptionRelay.Proofs.Text.Hex

/-! # What a payload reports

A payload reports a request if its members are in their places and each of them
spells its part of the request. It does not matter what else the payload has,
nor which of its spellings a part has. Just these payloads are adapted, and to
the event of the request that they report.
-/

namespace RedemptionRelay

open Json (Value)

/-! ## Values -/

namespace Adaptation

def SpellsByte (item : Value) (byte : UInt8) : Prop :=
  ∃ literal, item = .number literal ∧ Digits.Denote 10 literal.toList byte.toNat

/-- Bytes are spelled by hexadecimal digits of either case, with or without
marks before them, or by a number each. -/
inductive SpellsBytes (bytes : Bytes) : Value → Prop
  | text {content : String} {digits : List Char} (marked : Hex.Marked 'x' digits content.toList)
      (lowers : digits.map Char.toLower = Hex.encodeChars bytes) :
      SpellsBytes bytes (.text content)
  | array {items : List Value} (each : List.Forall₂ SpellsByte items bytes) :
      SpellsBytes bytes (.array items)

/-- Whole numbers are spelled by their decimal digits and no other mark, or by
a text. -/
inductive SpellsWhole (number : Nat) : Value → Prop
  | literal {literal : String} (denotes : Digits.Denote 10 literal.toList number) :
      SpellsWhole number (.number literal)
  | text {content : String} (spelled : Amount.Spelled number content.toList) :
      SpellsWhole number (.text content)

theorem byte?_eq_some_iff (item : Value) (byte : UInt8) :
    byte? item = some byte ↔ SpellsByte item byte := by
  constructor
  · intro reads
    unfold byte? at reads
    split at reads
    · next literal =>
        split at reads
        · next value isValue =>
            split at reads
            · next fits =>
                cases reads
                refine ⟨literal, rfl, ?_⟩
                rw [UInt8.toNat_ofNat_of_lt' fits]
                exact (Digits.read?_eq_some_iff (by decide)).mp isValue
            · cases reads
        · cases reads
    · cases reads
  · rintro ⟨literal, rfl, denotes⟩
    unfold byte?
    dsimp only
    rw [(Digits.read?_eq_some_iff (by decide)).mpr denotes]
    dsimp only
    rw [if_pos byte.toNat_lt, UInt8.ofNat_toNat]

section

variable {name : String} {value : Value}

theorem rawBytes_eq_ok_iff {bytes : Bytes} :
    rawBytes name value = .ok bytes ↔ SpellsBytes bytes value := by
  constructor
  · intro read
    unfold rawBytes at read
    split at read
    · split at read
      · next decoded =>
          cases read
          rcases Hex.decodeMarked_eq_ok_iff.mp decoded with ⟨digits, marked, lowers⟩
          exact .text marked lowers
      · cases read
    · split at read
      · next each =>
          cases read
          exact .array ((Json.mapM_eq_some_iff byte?_eq_some_iff).mp each)
      · cases read
    · cases read
  · intro spells
    cases spells with
    | text marked lowers =>
        rw [rawBytes, Hex.decodeMarked_eq_ok_iff.mpr ⟨_, marked, lowers⟩]
    | array each => rw [rawBytes, (Json.mapM_eq_some_iff byte?_eq_some_iff).mpr each]

theorem bytes_eq_ok_iff {expected : Option Nat} {text : String} :
    bytes name expected value = .ok text ↔
      ∃ bytes, SpellsBytes bytes value ∧ bytes ≠ [] ∧
        (∀ length ∈ expected, bytes.length = length) ∧ text = Hex.encodeMarked bytes := by
  unfold Adaptation.bytes
  simp only [Except.bind_eq_ok, rawBytes_eq_ok_iff]
  refine exists_congr fun found => and_congr_right fun _ => ?_
  cases found with
  | nil => simp
  | cons first rest =>
      cases expected with
      | none => simp [eq_comm]
      | some length =>
          by_cases fits : (first :: rest).length = length
          · simp [fits, eq_comm]
          · have differs : ¬ rest.length + 1 = length := fits
            simp [differs]

theorem whole_eq_ok_iff {number : Nat} :
    whole name value = .ok number ↔ number < Width.bound128 ∧ SpellsWhole number value := by
  constructor
  · intro read
    refine ⟨lt_of_whole read, ?_⟩
    unfold whole at read
    split at read
    · split at read
      · next isNumber =>
          split at read
          · cases read
            exact .literal ((Digits.read?_eq_some_iff (by decide)).mp isNumber)
          · cases read
      · cases read
    · split at read
      · next parsed =>
          cases read
          exact .text (Amount.parse?_eq_some_iff.mp parsed).2
      · cases read
    · cases read
  · rintro ⟨fits, spells⟩
    cases spells with
    | literal denotes =>
        rw [whole, (Digits.read?_eq_some_iff (by decide)).mpr denotes]
        exact if_pos fits
    | text spelled => rw [whole, Amount.parse?_eq_some_iff.mpr ⟨fits, spelled⟩]

theorem wholeBelow_eq_ok_iff {bound : Nat} (within : bound ≤ Width.bound128) {number : Nat} :
    wholeBelow bound name value = .ok number ↔ number < bound ∧ SpellsWhole number value := by
  unfold wholeBelow
  rw [Except.bind_eq_ok]
  constructor
  · rintro ⟨read, isNumber, checked⟩
    split at checked
    · next fits =>
        cases checked
        exact ⟨fits, (whole_eq_ok_iff.mp isNumber).2⟩
    · cases checked
  · rintro ⟨fits, spells⟩
    exact ⟨number, whole_eq_ok_iff.mpr ⟨Nat.lt_of_lt_of_le fits within, spells⟩, if_pos fits⟩

theorem field_eq_ok_iff {object found : Value} :
    field object name = .ok found ↔ object.member? name = some found ∧ found ≠ .null := by
  unfold field
  cases object.member? name with
  | none => simp
  | some member =>
      cases member with
      | null =>
          constructor
          · exact nofun
          · rintro ⟨⟨⟩, notNull⟩
            exact absurd rfl notNull
      | bool | number | text | array | object =>
          constructor
          · rintro ⟨⟩
            exact ⟨rfl, nofun⟩
          · rintro ⟨⟨⟩, -⟩
            rfl

theorem positive_eq_ok_iff {number amount : Nat} :
    positive name number = .ok amount ↔ 0 < amount ∧ amount = number := by
  unfold positive
  split
  · next zero => simp; omega
  · next notZero => simp; omega

end

end Adaptation

/-! ## Transaction hashes -/

namespace ChainKind

def SpellsHash (raw : String) (digits : List Char) (number : Nat) : Prop :=
  ∃ rest, Hex.Marked 'x' rest raw.toList ∧ Hex.Marked 'X' digits rest ∧
    Digits.Denote 16 digits number

/-- The form in which a hash is kept: in lowercase digits behind one mark, on
StarkNet those of its number, or as it is. -/
def Normalizes (kind : ChainKind) (raw hash : String) : Prop :=
  match kind with
  | .solana | .sui => raw ≠ "" ∧ hash = raw
  | .evm | .sei =>
      ∃ digits number, SpellsHash raw digits number ∧
        hash = String.ofList ('0' :: 'x' :: digits.map Char.toLower)
  | .starknet =>
      ∃ digits number, SpellsHash raw digits number ∧
        hash = String.ofList ('0' :: 'x' :: Nat.toDigits 16 number)

theorem marked_dropUpperMarks (chars : List Char) :
    Hex.Marked 'X' (dropUpperMarks chars) chars := by
  fun_induction dropUpperMarks chars with
  | case1 rest induction => exact .mark induction
  | case2 chars other => exact .bare

theorem dropUpperMarks_of_marked {rest chars : List Char} (marked : Hex.Marked 'X' rest chars)
    (unmarked : 'X' ∉ rest) : dropUpperMarks chars = rest := by
  induction marked with
  | bare =>
      unfold dropUpperMarks
      split
      · exact absurd (List.mem_cons_of_mem _ List.mem_cons_self) unmarked
      · rfl
  | mark marked induction => exact induction

section

variable {raw : String} {digits : List Char} {number : Nat}

theorem hashDigits_of_spellsHash (spells : SpellsHash raw digits number) :
    hashDigits raw = digits := by
  rcases spells with ⟨rest, lower, upper, denotes⟩
  have absent {c : Char} (other : c ∉ Escape.hexadecimalDigits) : c ∉ digits := fun isIn =>
    other (denotes.mem_hexadecimalDigits (by decide) c isIn)
  -- Uppercase marks and the digits behind them are no lowercase mark.
  have bare : Hex.dropMarks rest = rest := by
    cases upper with
    | bare => exact Hex.dropMarks_of_not_mem (absent (by decide))
    | mark upper => rfl
  rw [hashDigits, Hex.dropMarks_of_marked lower bare,
    dropUpperMarks_of_marked upper (absent (by decide))]

theorem spellsHash_hashDigits (denotes : Digits.Denote 16 (hashDigits raw) number) :
    SpellsHash raw (hashDigits raw) number :=
  ⟨_, Hex.marked_dropMarks _, marked_dropUpperMarks _, denotes⟩

end

theorem dropZeros_of_values {values : List Nat} (all : ∀ value ∈ values, value < 16) :
    dropZeros (values.map Nat.digitChar) =
      Nat.toDigits 16 (Nat.ofDigits 16 values.reverse) := by
  induction values with
  | nil => rfl
  | cons value values induction =>
      cases value with
      | zero =>
          have others := induction fun other isIn => all other (List.mem_cons_of_mem _ isIn)
          rw [Nat.ofDigits_reverse_zero_cons, ← others]
          rfl
      | succ value =>
          have nonzero : ∀ value < 15, Nat.digitChar (value + 1) ≠ '0' := by decide
          have below := all (value + 1) List.mem_cons_self
          rw [Digits.toDigits_ofDigits (by decide) all nofun nofun]
          simp [dropZeros, nonzero value (by omega)]

theorem dropZeros_of_denote {digits : List Char} {number : Nat}
    (denotes : Digits.Denote 16 digits number) :
    dropZeros (digits.map Char.toLower) = Nat.toDigits 16 number := by
  rcases denotes with ⟨values, -, all, same, rfl⟩
  rw [same, dropZeros_of_values all]

theorem normalizeHash_hexadecimal (kind : ChainKind) (notSolana : kind ≠ .solana)
    (notSui : kind ≠ .sui) {raw hash : String} :
    kind.normalizeHash raw = .ok hash ↔
      ∃ digits number, SpellsHash raw digits number ∧
        hash = String.ofList ('0' :: 'x' ::
          if kind = .starknet then Nat.toDigits 16 number else digits.map Char.toLower) := by
  have unfolded : kind.normalizeHash raw =
      if (hashDigits raw).isEmpty || !(hashDigits raw).all Digits.isHexadecimal then
        .error (.invalidField "tx_hash" "not a hex hash")
      else .ok (String.ofList ('0' :: 'x' ::
        if kind = .starknet then dropZeros ((hashDigits raw).map Char.toLower)
        else (hashDigits raw).map Char.toLower)) := by
    cases kind with
    | solana => exact absurd rfl notSolana
    | sui => exact absurd rfl notSui
    | evm | sei | starknet => rfl
  have accepted : ((hashDigits raw).isEmpty || !(hashDigits raw).all Digits.isHexadecimal) = false ↔
      ∃ number, Digits.Denote 16 (hashDigits raw) number := by
    rw [Digits.exists_denote_iff]
    simp
  rw [unfolded]
  constructor
  · intro written
    split at written
    · cases written
    · next valid =>
        rcases accepted.mp (eq_false_of_ne_true valid) with ⟨number, denotes⟩
        cases written
        exact ⟨_, number, spellsHash_hashDigits denotes, by rw [dropZeros_of_denote denotes]⟩
  · rintro ⟨digits, number, spells, rfl⟩
    have same := hashDigits_of_spellsHash spells
    rcases spells with ⟨_, -, -, denotes⟩
    rw [same] at accepted ⊢
    rw [accepted.mpr ⟨number, denotes⟩, dropZeros_of_denote denotes]
    rfl

theorem Normalizes.ne_empty {kind : ChainKind} {raw hash : String}
    (normalizes : kind.Normalizes raw hash) : raw ≠ "" := by
  have spelled {digits : List Char} {number : Nat} (spells : SpellsHash raw digits number) :
      raw ≠ "" := by
    rintro rfl
    have noDigits : digits = [] := (hashDigits_of_spellsHash spells).symm
    rcases spells with ⟨_, -, -, denotes⟩
    exact (Digits.exists_denote_iff.mp ⟨number, denotes⟩).1 noDigits
  cases kind with
  | solana | sui => exact normalizes.1
  | evm | sei | starknet =>
      rcases normalizes with ⟨digits, number, spells, -⟩
      exact spelled spells

theorem normalizeHash_eq_ok_iff {kind : ChainKind} {raw hash : String} (filled : raw ≠ "") :
    kind.normalizeHash raw = .ok hash ↔ kind.Normalizes raw hash := by
  cases kind with
  | evm => exact normalizeHash_hexadecimal .evm nofun nofun
  | sei => exact normalizeHash_hexadecimal .sei nofun nofun
  | starknet => exact normalizeHash_hexadecimal .starknet nofun nofun
  | solana | sui =>
      constructor
      · rintro ⟨⟩
        exact ⟨filled, rfl⟩
      · rintro ⟨-, rfl⟩
        rfl

end ChainKind

/-! ## Requests -/

/-- A redemption as such, whatever its chain writes about it. -/
structure Terms where
  walletPubKeyHash : Bytes
  utxoTxHash : Bytes
  outputIndex : Nat
  outputValue : Nat
  redeemerOutputScript : Bytes
  amount : Nat
  length_wallet : walletPubKeyHash.length = 20
  length_utxo : utxoTxHash.length = 32
  index_lt : outputIndex < Width.bound32
  value_lt : outputValue < Width.bound64
  script_filled : redeemerOutputScript ≠ []
  amount_pos : 0 < amount
  amount_lt : amount < Width.bound128

def Terms.event (terms : Terms) (hash : String) : Event where
  walletPubKeyHash := Hex.encodeMarked terms.walletPubKeyHash
  mainUtxo :=
    { txHash := Hex.encodeMarked terms.utxoTxHash
      outputIndex := terms.outputIndex
      outputValue := terms.outputValue }
  redeemerOutputScript := Hex.encodeMarked terms.redeemerOutputScript
  amount := terms.amount
  sourceTxHash := hash

namespace Adaptation

def Holds (object : Value) (name : String) (Such : Value → Prop) : Prop :=
  ∃ value, object.member? name = some value ∧ Such value

structure StatesUtxo (names : FieldNames) (txHash : Bytes) (outputIndex outputValue : Nat)
    (utxo : Value) : Prop where
  txHash : Holds utxo names.txHash (SpellsBytes txHash)
  outputIndex : Holds utxo names.txOutputIndex (SpellsWhole outputIndex)
  outputValue : Holds utxo names.txOutputValue (SpellsWhole outputValue)

structure States (names : FieldNames) (terms : Terms) (fields : Value) : Prop where
  walletPubKeyHash : Holds fields names.walletPubKeyHash (SpellsBytes terms.walletPubKeyHash)
  mainUtxo : Holds fields names.mainUtxo
    (StatesUtxo names terms.utxoTxHash terms.outputIndex terms.outputValue)
  redeemerOutputScript :
    Holds fields names.redeemerOutputScript (SpellsBytes terms.redeemerOutputScript)
  amount : Holds fields names.amount (SpellsWhole terms.amount)

end Adaptation

open Adaptation in
/-- The payload has the redemption and the hash where the layout of its kind has
them. -/
structure ChainKind.Reports (kind : ChainKind) (terms : Terms) (hash : String) (raw : Value) :
    Prop where
  hash : ∃ text, path? raw kind.layout.txHashPath = some (.text text) ∧ kind.Normalizes text hash
  fields : Holds raw kind.layout.fieldsKey (States kind.layout.names terms)

namespace Adaptation

theorem transactionHash_eq_ok_iff {kind : ChainKind} {raw : Value} {hash : String} :
    transactionHash kind raw = .ok hash ↔
      ∃ text, path? raw kind.layout.txHashPath = some (.text text) ∧ kind.Normalizes text hash := by
  constructor
  · intro read
    unfold transactionHash at read
    dsimp only at read
    split at read
    · next text isText =>
        rcases Option.bind_eq_some_iff.mp isText with ⟨found, onPath, asText⟩
        cases found with
        | text content =>
            cases asText
            split at read
            · cases read
            · next filled =>
                have filled' : text ≠ "" := by
                  rintro rfl
                  exact filled rfl
                exact ⟨text, onPath, (ChainKind.normalizeHash_eq_ok_iff filled').mp read⟩
        | null | bool | number | array | object => cases asText
    · cases read
  · rintro ⟨text, onPath, normalizes⟩
    have filled := normalizes.ne_empty
    unfold transactionHash
    dsimp only
    rw [onPath]
    dsimp only [Option.bind_some, Value.asText?]
    rw [if_neg (by simpa using filled)]
    exact (ChainKind.normalizeHash_eq_ok_iff filled).mpr normalizes

theorem eventFields_eq_ok_iff {kind : ChainKind} {raw fields : Value} :
    eventFields kind raw = .ok fields ↔
      raw.member? kind.layout.fieldsKey = some fields ∧ fields.isObject = true := by
  unfold eventFields
  dsimp only
  cases raw.member? kind.layout.fieldsKey with
  | none => simp
  | some found =>
      dsimp only
      split
      · next isObject => grind
      · next noObject => grind

theorem SpellsBytes.ne_null {bytes : Bytes} {value : Value} (spells : SpellsBytes bytes value) :
    value ≠ .null := by
  rintro rfl
  cases spells

theorem SpellsWhole.ne_null {number : Nat} {value : Value} (spells : SpellsWhole number value) :
    value ≠ .null := by
  rintro rfl
  cases spells

theorem isObject_of_member? {object value : Value} {name : String}
    (present : object.member? name = some value) : object.isObject = true := by
  cases object with
  | object members => rfl
  | null | bool | number | text | array => cases present

theorem Holds.isObject {object : Value} {name : String} {Such : Value → Prop}
    (holds : Holds object name Such) : object.isObject = true := by
  rcases holds with ⟨value, present, -⟩
  exact isObject_of_member? present

theorem ne_null_of_isObject {value : Value} (isObject : value.isObject = true) :
    value ≠ .null := by
  rintro rfl
  cases isObject

theorem mainUtxo_eq_ok_iff {names : FieldNames} {fields : Value} {utxo : MainUtxo} :
    mainUtxo names fields = .ok utxo ↔
      utxo.outputIndex < Width.bound32 ∧ utxo.outputValue < Width.bound64 ∧
        ∃ txHash : Bytes, txHash.length = 32 ∧ utxo.txHash = Hex.encodeMarked txHash ∧
          Holds fields names.mainUtxo
            (StatesUtxo names txHash utxo.outputIndex utxo.outputValue) := by
  simp only [mainUtxo, Except.bind_eq_ok, field_eq_ok_iff, bytes_eq_ok_iff,
    wholeBelow_eq_ok_iff (by decide : Width.bound32 ≤ Width.bound128),
    wholeBelow_eq_ok_iff (by decide : Width.bound64 ≤ Width.bound128)]
  constructor
  · rintro ⟨member, ⟨hasMember, -⟩, hash, ⟨hasHash, -⟩, _, ⟨txHash, spellsHash, -, length, rfl⟩,
      index, ⟨hasIndex, -⟩, outputIndex, ⟨indexFits, spellsIndex⟩,
      value, ⟨hasValue, -⟩, outputValue, ⟨valueFits, spellsValue⟩, same⟩
    cases same
    exact ⟨indexFits, valueFits, txHash, length 32 rfl, rfl, member, hasMember,
      ⟨hash, hasHash, spellsHash⟩, ⟨index, hasIndex, spellsIndex⟩, ⟨value, hasValue, spellsValue⟩⟩
  · rintro ⟨indexFits, valueFits, txHash, length, written, member, hasMember, states⟩
    have notNull := ne_null_of_isObject states.txHash.isObject
    rcases states with
      ⟨⟨hash, hasHash, spellsHash⟩, ⟨index, hasIndex, spellsIndex⟩, value, hasValue, spellsValue⟩
    have filled : txHash ≠ [] := by
      rintro rfl
      cases length
    refine ⟨member, ⟨hasMember, notNull⟩, hash, ⟨hasHash, spellsHash.ne_null⟩, _,
      ⟨txHash, spellsHash, filled, ?_, rfl⟩, index, ⟨hasIndex, spellsIndex.ne_null⟩, _,
      ⟨indexFits, spellsIndex⟩, value, ⟨hasValue, spellsValue.ne_null⟩, _,
      ⟨valueFits, spellsValue⟩, ?_⟩
    · rintro _ ⟨⟩
      exact length
    · rw [← written]
      rfl

end Adaptation

open Adaptation in
theorem ChainKind.adapt_eq_ok_iff {kind : ChainKind} {raw : Value} {event : Event} :
    kind.adapt raw = .ok event ↔
      ∃ terms hash, kind.Reports terms hash raw ∧ event = terms.event hash := by
  simp only [adapt, Except.bind_eq_ok, transactionHash_eq_ok_iff, eventFields_eq_ok_iff,
    field_eq_ok_iff, bytes_eq_ok_iff, mainUtxo_eq_ok_iff, whole_eq_ok_iff, positive_eq_ok_iff]
  constructor
  · rintro ⟨sourceTxHash, isHash, fields, ⟨hasFields, -⟩, wallet, ⟨hasWallet, -⟩, _,
      ⟨walletPubKeyHash, spellsWallet, -, walletLength, rfl⟩, ⟨_, outputIndex, outputValue⟩,
      ⟨indexFits, valueFits, utxoTxHash, utxoLength, rfl, hasUtxo⟩, script, ⟨hasScript, -⟩, _,
      ⟨redeemerOutputScript, spellsScript, scriptFilled, -, rfl⟩, number, ⟨hasAmount, -⟩, _,
      ⟨amountFits, spellsAmount⟩, amount, ⟨positive, rfl⟩, same⟩
    cases same
    let terms : Terms :=
      { walletPubKeyHash, utxoTxHash, outputIndex, outputValue, redeemerOutputScript, amount
        length_wallet := walletLength 20 rfl
        length_utxo := utxoLength
        index_lt := indexFits
        value_lt := valueFits
        script_filled := scriptFilled
        amount_pos := positive
        amount_lt := amountFits }
    have states : States kind.layout.names terms fields :=
      { walletPubKeyHash := ⟨wallet, hasWallet, spellsWallet⟩
        mainUtxo := hasUtxo
        redeemerOutputScript := ⟨script, hasScript, spellsScript⟩
        amount := ⟨number, hasAmount, spellsAmount⟩ }
    exact ⟨terms, sourceTxHash, ⟨isHash, fields, hasFields, states⟩, rfl⟩
  · rintro ⟨terms, hash, ⟨isHash, fields, hasFields, states⟩, rfl⟩
    have isObject := states.mainUtxo.isObject
    rcases states with ⟨⟨wallet, hasWallet, spellsWallet⟩, hasUtxo,
      ⟨script, hasScript, spellsScript⟩, amount, hasAmount, spellsAmount⟩
    have filled : terms.walletPubKeyHash ≠ [] := by
      intro empty
      have length := terms.length_wallet
      rw [empty] at length
      cases length
    refine ⟨hash, isHash, fields, ⟨hasFields, isObject⟩, wallet,
      ⟨hasWallet, spellsWallet.ne_null⟩, _, ⟨_, spellsWallet, filled, ?_, rfl⟩,
      (terms.event hash).mainUtxo,
      ⟨terms.index_lt, terms.value_lt, _, terms.length_utxo, rfl, hasUtxo⟩, script,
      ⟨hasScript, spellsScript.ne_null⟩, _, ⟨_, spellsScript, terms.script_filled, ?_, rfl⟩,
      amount, ⟨hasAmount, spellsAmount.ne_null⟩, _, ⟨terms.amount_lt, spellsAmount⟩, _,
      ⟨terms.amount_pos, rfl⟩, rfl⟩
    · rintro _ ⟨⟩
      exact terms.length_wallet
    · rintro _ ⟨⟩

end RedemptionRelay

import RedemptionRelay.Proofs.Chain.Meaning

/-! # Adapted events are what was reported

Whatever is adapted is in the form in which events are kept and says what the
payload says, and whatever reports a redemption is adapted to it. So the event
depends on nothing but the redemption and the normal form of its hash: neither
on how the parts are written, nor on what else the payload has, nor on the kind
of the chain.
-/

namespace RedemptionRelay

open Json (Value)

/-! ## Usual spellings -/

namespace Adaptation

section

variable {bytes : Bytes} {digits : List Char} {number : Nat}

theorem spellsBytes_digits (lowers : digits.map Char.toLower = Hex.encodeChars bytes) :
    SpellsBytes bytes (.text (String.ofList digits)) :=
  .text (by rw [String.toList_ofList]; exact .bare) lowers

theorem spellsBytes_marked (lowers : digits.map Char.toLower = Hex.encodeChars bytes) :
    SpellsBytes bytes (.text (String.ofList ('0' :: 'x' :: digits))) :=
  .text (by rw [String.toList_ofList]; exact .mark .bare) lowers

theorem spellsWhole_ofNat (number : Nat) : SpellsWhole number (.ofNat number) := by
  refine .literal ?_
  rw [Nat.repr_eq_ofList_toDigits, String.toList_ofList]
  exact Digits.denote_toDigits number

theorem spellsBytes_array (bytes : Bytes) :
    SpellsBytes bytes (.array (bytes.map fun byte => .ofNat byte.toNat)) := by
  refine .array ?_
  induction bytes with
  | nil => exact .nil
  | cons byte bytes induction =>
      refine .cons ⟨_, rfl, ?_⟩ induction
      cases spellsWhole_ofNat byte.toNat with
      | literal denotes => exact denotes

theorem spellsWhole_decimal (before body after : List Char)
    (blankBefore : ∀ c ∈ before, Blank.isBlank c = true)
    (blankAfter : ∀ c ∈ after, Blank.isBlank c = true)
    (written : body.filter (· ≠ '_') = Nat.toDigits 10 number) :
    SpellsWhole number (.text (String.ofList (before ++ body ++ after))) := by
  refine .text ?_
  rw [String.toList_ofList]
  refine .numeral blankBefore blankAfter ?_
  rw [written]
  exact .decimal (.bare (Digits.denote_toDigits number))

theorem spellsWhole_hexadecimal (before body after : List Char)
    (blankBefore : ∀ c ∈ before, Blank.isBlank c = true)
    (blankAfter : ∀ c ∈ after, Blank.isBlank c = true)
    (written : body.filter (· ≠ '_') = '0' :: 'x' :: digits)
    (lowers : digits.map Char.toLower = Nat.toDigits 16 number) :
    SpellsWhole number (.text (String.ofList (before ++ body ++ after))) := by
  refine .text ?_
  rw [String.toList_ofList]
  refine .numeral blankBefore blankAfter ?_
  rw [written]
  exact .hexadecimal (.bare (Digits.denote_of_lowers (by decide) lowers))

end

/-! ### One payload -/

namespace Sample

def terms : Terms where
  walletPubKeyHash := List.replicate 20 0xab
  utxoTxHash := List.replicate 32 7
  outputIndex := 1
  outputValue := 1473114
  redeemerOutputScript := [0x76, 0xa9]
  amount := 10000000000000000
  length_wallet := rfl
  length_utxo := rfl
  index_lt := by decide
  value_lt := by decide
  script_filled := nofun
  amount_pos := by decide
  amount_lt := by decide

/-- Every part is written in another way, and there are members that mean nothing. -/
def payload : Value :=
  .object [
    ("block", .ofNat 7),
    ("transaction_hash", .text "0x00AbC"),
    ("event", .object [
      ("wallet_pub_key_hash", .text (String.ofList (List.replicate 20 ['A', 'b']).flatten)),
      ("main_utxo", .object [
        ("tx_hash", .array (terms.utxoTxHash.map fun byte => .ofNat byte.toNat)),
        ("tx_output_index", .ofNat 1),
        ("tx_output_value", .text " 1_473_114\n")]),
      ("redeemer_output_script", .text "0x76A9"),
      ("amount", .text "0x23_86F2_6FC1_0000"),
      ("memo", .null)])]

theorem reports : ChainKind.starknet.Reports terms "0xabc" payload := by
  have hash : ChainKind.SpellsHash "0x00AbC" ['0', '0', 'A', 'b', 'C'] 0xabc :=
    ⟨_, .mark .bare, .bare, (Digits.read?_eq_some_iff (by decide)).mp (by decide)⟩
  have wallet : SpellsBytes terms.walletPubKeyHash
      (.text (String.ofList (List.replicate 20 ['A', 'b']).flatten)) :=
    spellsBytes_digits (by decide)
  have script : SpellsBytes terms.redeemerOutputScript (.text "0x76A9") :=
    have lowers : ['7', '6', 'A', '9'].map Char.toLower =
        Hex.encodeChars terms.redeemerOutputScript := by
      decide
    spellsBytes_marked lowers
  have value : SpellsWhole terms.outputValue (.text " 1_473_114\n") :=
    spellsWhole_decimal [' '] "1_473_114".toList ['\n'] (List.forall_mem_singleton.mpr rfl)
      (List.forall_mem_singleton.mpr rfl) (by decide)
  have amount : SpellsWhole terms.amount (.text "0x23_86F2_6FC1_0000") :=
    spellsWhole_hexadecimal [] "0x23_86F2_6FC1_0000".toList [] nofun nofun rfl (by decide)
  exact
    { hash := ⟨_, rfl, _, _, hash, by decide⟩
      fields := ⟨_, rfl,
        { walletPubKeyHash := ⟨_, rfl, wallet⟩
          mainUtxo := ⟨_, rfl,
            { txHash := ⟨_, rfl, spellsBytes_array _⟩
              outputIndex := ⟨_, rfl, spellsWhole_ofNat _⟩
              outputValue := ⟨_, rfl, value⟩ }⟩
          redeemerOutputScript := ⟨_, rfl, script⟩
          amount := ⟨_, rfl, amount⟩ }⟩ }

end Sample

end Adaptation

/-! ## Whatever is adapted -/

namespace Adaptation

theorem Holds.both {object : Value} {name : String} {First Second : Value → Prop}
    (first : Holds object name First) (second : Holds object name Second) :
    ∃ value, First value ∧ Second value := by
  rcases first with ⟨value, present, isFirst⟩
  rcases second with ⟨value', present', isSecond⟩
  rw [present] at present'
  cases present'
  exact ⟨value, isFirst, isSecond⟩

theorem SpellsWhole.isDigit {number : Nat} {literal : String}
    (spells : SpellsWhole number (.number literal)) : ∀ c ∈ literal.toList, c.isDigit = true := by
  cases spells with
  | literal denotes => exact denotes.isDigit

def HasLiteral (layout : EventLayout) (raw : Value) (literal : String) : Prop :=
  Holds raw layout.fieldsKey fun fields =>
    Holds fields layout.names.amount (· = .number literal) ∨
      Holds fields layout.names.mainUtxo fun utxo =>
        Holds utxo layout.names.txOutputIndex (· = .number literal) ∨
          Holds utxo layout.names.txOutputValue (· = .number literal)

theorem States.isDigit {names : FieldNames} {terms : Terms} {fields : Value} {literal : String}
    (states : States names terms fields)
    (given : Holds fields names.amount (· = .number literal) ∨
      Holds fields names.mainUtxo fun utxo =>
        Holds utxo names.txOutputIndex (· = .number literal) ∨
          Holds utxo names.txOutputValue (· = .number literal)) :
    ∀ c ∈ literal.toList, c.isDigit = true := by
  have digits {object : Value} {name : String} {number : Nat}
      (spelled : Holds object name (SpellsWhole number))
      (given : Holds object name (· = .number literal)) :
      ∀ c ∈ literal.toList, c.isDigit = true := by
    rcases spelled.both given with ⟨_, spells, rfl⟩
    exact spells.isDigit
  rcases given with amount | inUtxo
  · exact digits states.amount amount
  · rcases states.mainUtxo.both inUtxo with ⟨utxo, statesUtxo, index | value⟩
    · exact digits statesUtxo.outputIndex index
    · exact digits statesUtxo.outputValue value

end Adaptation

theorem Terms.wallet_event (terms : Terms) (hash : String) :
    Hex.IsMarked 40 (terms.event hash).walletPubKeyHash := by
  have marked := Hex.isMarked_encodeMarked terms.walletPubKeyHash
  rw [terms.length_wallet] at marked
  exact marked

theorem Terms.utxo_event (terms : Terms) (hash : String) :
    Hex.IsMarked 64 (terms.event hash).mainUtxo.txHash := by
  have marked := Hex.isMarked_encodeMarked terms.utxoTxHash
  rw [terms.length_utxo] at marked
  exact marked

theorem ChainKind.Normalizes.filled {kind : ChainKind} {raw hash : String}
    (normalizes : kind.Normalizes raw hash) : hash ≠ "" := by
  cases kind with
  | solana | sui => exact normalizes.2 ▸ normalizes.1
  | evm | sei | starknet =>
      rcases normalizes with ⟨_, _, -, rfl⟩
      simp

open Adaptation in
/-- The parts of the event have their forms, and the event is that of the
redemption that the payload reports. -/
structure ChainKind.Faithful (kind : ChainKind) (raw : Value) (event : Event) : Prop where
  wallet : Hex.IsMarked 40 event.walletPubKeyHash
  utxo : Hex.IsMarked 64 event.mainUtxo.txHash
  script : ∃ pairs, 0 < pairs ∧ Hex.IsMarked (2 * pairs) event.redeemerOutputScript
  index : event.mainUtxo.outputIndex < 2 ^ 32
  value : event.mainUtxo.outputValue < 2 ^ 64
  amount : 0 < event.amount ∧ event.amount < 2 ^ 128
  hash : event.sourceTxHash ≠ ""
  reported : ∃ terms, kind.Reports terms event.sourceTxHash raw ∧
    event = terms.event event.sourceTxHash
  /-- The numbers of the payload are never negative, fractions or powers. -/
  plain : ∀ literal, HasLiteral kind.layout raw literal → ∀ c ∈ literal.toList, c.isDigit = true

/-- An adapted event is in form and says what the payload says. -/
theorem ChainKind.adapted_faithful {kind : ChainKind} {raw : Value} {event : Event}
    (adapted : kind.adapt raw = .ok event) : kind.Faithful raw event := by
  rcases adapt_eq_ok_iff.mp adapted with ⟨terms, hash, reports, rfl⟩
  rcases reports.hash with ⟨text, -, normalizes⟩
  exact
    { wallet := terms.wallet_event hash
      utxo := terms.utxo_event hash
      script := ⟨_, List.length_pos_iff.mpr terms.script_filled, Hex.isMarked_encodeMarked _⟩
      index := terms.index_lt
      value := terms.value_lt
      amount := ⟨terms.amount_pos, terms.amount_lt⟩
      hash := normalizes.filled
      reported := ⟨terms, reports, rfl⟩
      plain := by
        intro literal given
        rcases reports.fields.both given with ⟨fields, states, given⟩
        exact states.isDigit given }

open Adaptation.Sample in
theorem ChainKind.adapted_faithful_of_mixed_spellings :
    ∃ event, ChainKind.starknet.adapt payload = .ok event ∧
      ChainKind.starknet.Faithful payload event :=
  have adapted := adapt_eq_ok_iff.mpr ⟨terms, _, reports, rfl⟩
  ⟨_, adapted, adapted_faithful adapted⟩

/-! ## Whatever reports -/

/-- A payload that reports a redemption is adapted to it, however its parts are
written; on any other chain there is no difference but in the hash. -/
theorem ChainKind.reported_adapted {kind : ChainKind} {terms : Terms} {hash : String} {raw : Value}
    (reports : kind.Reports terms hash raw) :
    kind.adapt raw = .ok (terms.event hash) ∧
      ∀ (kind' : ChainKind) (hash' : String) (raw' : Value), kind'.Reports terms hash' raw' →
        kind'.adapt raw' = .ok { terms.event hash with sourceTxHash := hash' } :=
  ⟨adapt_eq_ok_iff.mpr ⟨terms, hash, reports, rfl⟩, fun _ hash' _ reports' =>
    adapt_eq_ok_iff.mpr ⟨terms, hash', reports', rfl⟩⟩

open Adaptation.Sample in
theorem ChainKind.reported_adapted_of_mixed_spellings :
    ChainKind.starknet.Reports terms "0xabc" payload ∧
      ChainKind.starknet.adapt payload = .ok (terms.event "0xabc") :=
  ⟨reports, (reported_adapted reports).1⟩

end RedemptionRelay

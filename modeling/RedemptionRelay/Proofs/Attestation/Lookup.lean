import RedemptionRelay.Attestation
import RedemptionRelay.Chain.Adaptation
import RedemptionRelay.Proofs.Chain.Adaptation
import RedemptionRelay.Proofs.Http.Query

/-! # What a lookup asks for

The hash of a transaction is put into the query of an address as it is. A hash
with marks of its own is taken apart there; hexadecimal hashes have none.
-/

namespace RedemptionRelay

namespace Attestation

/-- No character of the hash means anything but itself in the query of an
address, and none is left out. -/
def isPlain (hash : String) : Bool :=
  let chars := hash.toList
  chars.all Url.isKept && !chars.getLast?.any Url.isEdge &&
    !chars.any ['#', '&', '+'].contains && Escape.isLiteral chars

variable {hash base : String}

theorem isPlain_iff (hash : String) :
    isPlain hash = true ↔
      Url.sent hash.toList = hash.toList ∧ '&' ∉ hash.toList ∧
        '+' ∉ hash.toList ∧ Escape.isLiteral hash.toList = true := by
  have marks : hash.toList.any ['#', '&', '+'].contains = false ↔
      '#' ∉ hash.toList ∧ '&' ∉ hash.toList ∧ '+' ∉ hash.toList := by
    simp only [List.any_eq_false, List.contains_iff_mem, List.mem_cons, List.not_mem_nil,
      or_false, not_or]
    grind
  unfold isPlain
  rw [Url.sent_eq_self_iff]
  simp only [Bool.and_eq_true, Bool.not_eq_true', marks]
  tauto

def fieldName : List Char :=
  ['t', 'x', 'H', 'a', 's', 'h']

theorem isName_fieldName : Form.IsName fieldName where
  whole := by decide
  unsplit := by decide

/-! ## Addresses -/

def addressFront (base : String) : List Char :=
  (trimSlashes base).toList ++ "/api/v1/operations".toList

theorem lookupAddress_eq (base hash : String) :
    lookupAddress base hash =
      String.ofList (addressFront base ++ '?' :: (fieldName ++ '=' :: hash.toList)) := by
  apply String.toList_injective
  rw [String.toList_ofList, lookupAddress, addressFront, fieldName]
  simp [toString]

theorem not_mem_addressFront {c : Char} (absent : c ∉ base.toList)
    (other : c ∉ "/api/v1/operations".toList) : c ∉ addressFront base := by
  intro isIn
  rcases List.mem_append.mp isIn with isIn | isIn
  · rw [trimSlashes, String.toList_ofList, List.mem_reverse] at isIn
    exact absent (List.mem_reverse.mp ((List.dropWhile_sublist _).subset isIn))
  · exact other isIn

theorem sent_query (hash : List Char) :
    Url.sent (fieldName ++ '=' :: hash) = fieldName ++ '=' :: Url.sent hash :=
  Url.sent_append (by decide) (by decide) (by decide) hash

theorem parameters_eq_iff {reserved : List Char} (spares : Escape.sparesMarks reserved = true)
    (hash : String) :
    Form.parameters (Escape.encode reserved (fieldName ++ '=' :: Url.sent hash.toList)) =
        [(Bytes.ofText "txHash", Bytes.ofText hash)] ↔
      isPlain hash = true := by
  have named : Form.meaning fieldName = Bytes.ofText "txHash" :=
    (Form.meaning_eq_ofChars_iff fieldName).mpr ⟨by decide, by decide⟩
  rw [isPlain_iff]
  by_cases marked : '&' ∈ Url.sent hash.toList
  · rcases List.eq_append_cons_of_mem marked with ⟨value, rest, same, whole⟩
    rw [same, Form.parameters_encode_cons spares isName_fieldName whole]
    -- The part before the mark would have to stand for the whole.
    constructor
    · intro asked
      have meant : Form.meaning value = Bytes.ofText hash :=
        (Prod.mk.inj (List.cons.inj asked).1).2
      have within : (value ++ '&' :: rest).Sublist hash.toList := same ▸ Url.sublist_sent _
      have same' := Form.eq_of_meaning ((List.sublist_append_left _ _).trans within) meant
      have lengths := within.length_le
      rw [same', List.length_append, List.length_cons] at lengths
      omega
    · rintro ⟨uncut, unsplit, -⟩
      rw [← uncut] at unsplit
      exact absurd (List.mem_append_right _ List.mem_cons_self) unsplit
  · rw [Form.parameters_encode spares isName_fieldName marked]
    constructor
    · intro asked
      have meant : Form.meaning (Url.sent hash.toList) = Bytes.ofText hash :=
        (Prod.mk.inj (List.cons.inj asked).1).2
      have uncut := Form.eq_of_meaning (Url.sublist_sent _) meant
      rw [uncut] at marked meant
      exact ⟨uncut, marked, (Form.meaning_eq_ofChars_iff _).mp meant⟩
    · rintro ⟨uncut, unsplit, plain⟩
      have meant := (Form.meaning_eq_ofChars_iff hash.toList).mpr plain
      rw [uncut, named, meant]
      rfl

theorem eq_of_query {reserved : List Char} (spares : Escape.sparesMarks reserved = true)
    {other : String} (plain : isPlain hash = true) (plain' : isPlain other = true)
    (same : Escape.encode reserved (fieldName ++ '=' :: Url.sent hash.toList) =
      Escape.encode reserved (fieldName ++ '=' :: Url.sent other.toList)) : hash = other := by
  have asked := (parameters_eq_iff spares hash).mpr plain
  have asked' := (parameters_eq_iff spares other).mpr plain'
  rw [same, asked'] at asked
  have bytes : Bytes.ofText other = Bytes.ofText hash :=
    (Prod.mk.inj (List.cons.inj asked).1).2
  exact (String.toList_injective (Bytes.ofChars_injective bytes)).symm

theorem url_of_lookupRequest {request : HttpRequest} (unasked : '?' ∉ base.toList)
    (unmarked : '#' ∉ base.toList) (made : lookupRequest base hash = .ok request) :
    ∃ url, Url.parseFront (Url.cleanFront (addressFront base)) = .ok url ∧
      ∀ query, query = Escape.encode url.queryReserved
          (fieldName ++ '=' :: Url.sent hash.toList) →
        request.url.target = url.path ++ ("?" ++ String.ofList query) ∧
          request.url.parameters = Form.parameters query := by
  rcases HttpRequest.url_of_make made with ⟨whole, parsed, same⟩
  rw [lookupAddress_eq, Url.parse_of_query (not_mem_addressFront unasked (by decide))
    (not_mem_addressFront unmarked (by decide))] at parsed
  cases front : Url.parseFront (Url.cleanFront (addressFront base)) with
  | error error => rw [front] at parsed; cases parsed
  | ok url =>
      rw [front] at parsed
      cases parsed
      refine ⟨url, rfl, ?_⟩
      rintro query rfl
      rw [same, Url.target_withoutCredentials, Url.parameters_withoutCredentials,
        Url.target_withQuery, Url.parameters_withQuery, sent_query]
      exact ⟨rfl, rfl⟩

/-! ## Hexadecimal hashes -/

theorem isEdge_of_isAlphanum {c : Char} (alphanumeric : c.isAlphanum = true) :
    Url.isEdge c = false := by
  cases edge : Url.isEdge c with
  | false => rfl
  | true =>
      have small : c.toNat < 0x21 := Nat.lt_succ_of_le (of_decide_eq_true edge)
      have others : ∀ code < 0x21, (Char.ofNat code).isAlphanum = false := by decide
      have other := others c.toNat small
      rw [Char.ofNat_toNat, alphanumeric] at other
      cases other

theorem isPlain_of_isAlphanum (each : ∀ c ∈ hash.toList, c.isAlphanum = true) :
    isPlain hash = true := by
  have absent {c : Char} (other : c.isAlphanum = false) : c ∉ hash.toList := by
    intro isIn
    rw [each c isIn] at other
    cases other
  have solid : ∀ c ∈ hash.toList, Url.isEdge c = false := fun c isIn =>
    isEdge_of_isAlphanum (each c isIn)
  rw [isPlain_iff, Url.sent_eq_self_iff]
  refine ⟨⟨absent rfl, ?_, ?_⟩, absent rfl, absent rfl, Escape.isLiteral_of_not_mem (absent rfl)⟩
  · exact List.all_eq_true.mpr fun c isIn => Url.isKept_of_solid (solid c isIn)
  · cases last : hash.toList.getLast? with
    | none => rfl
    | some c => exact solid c (List.mem_of_getLast? last)

theorem mem_of_mem_dropZeros {c : Char} {digits : List Char}
    (isIn : c ∈ ChainKind.dropZeros digits) : c = '0' ∨ c ∈ digits := by
  unfold ChainKind.dropZeros at isIn
  split at isIn
  · exact .inl (List.mem_singleton.mp isIn)
  · exact .inr ((List.dropWhile_sublist _).subset isIn)

theorem digits_of_normalizeHash {kind : ChainKind} {raw : String} (notSolana : kind ≠ .solana)
    (notSui : kind ≠ .sui) (written : kind.normalizeHash raw = .ok hash) :
    ∃ digits kept : List Char, digits.all Digits.isHexadecimal = true ∧
      (∀ c ∈ kept, c = '0' ∨ c ∈ digits.map Char.toLower) ∧
      hash = String.ofList ('0' :: 'x' :: kept) := by
  have checked : (if (ChainKind.hashDigits raw).isEmpty ||
        !(ChainKind.hashDigits raw).all Digits.isHexadecimal then
      .error (AdaptationError.invalidField "tx_hash" "not a hex hash")
    else
      let lowered := (ChainKind.hashDigits raw).map Char.toLower
      let kept := if kind = .starknet then ChainKind.dropZeros lowered else lowered
      Except.ok (String.ofList ('0' :: 'x' :: kept))) = .ok hash := by
    cases kind with
    | evm => exact written
    | sei => exact written
    | solana => exact absurd rfl notSolana
    | sui => exact absurd rfl notSui
    | starknet => exact written
  split at checked
  · cases checked
  · next valid =>
      cases checked
      simp only [Bool.or_eq_true, Bool.not_eq_true', not_or, Bool.not_eq_false] at valid
      refine ⟨_, _, valid.2, fun c isIn => ?_, rfl⟩
      split at isIn
      · exact mem_of_mem_dropZeros isIn
      · exact .inr isIn

theorem isPlain_of_normalizeHash {kind : ChainKind} {raw : String} (notSolana : kind ≠ .solana)
    (notSui : kind ≠ .sui) (written : kind.normalizeHash raw = .ok hash) :
    isPlain hash = true := by
  rcases digits_of_normalizeHash notSolana notSui written with
    ⟨digits, kept, hexadecimal, isKept, rfl⟩
  apply isPlain_of_isAlphanum
  rw [String.toList_ofList]
  intro c isIn
  rcases List.mem_cons.mp isIn with rfl | isIn
  · rfl
  rcases List.mem_cons.mp isIn with rfl | isIn
  · rfl
  rcases isKept c isIn with rfl | isIn
  · rfl
  rcases List.mem_map.mp isIn with ⟨digit, isDigit, rfl⟩
  have all : Escape.hexadecimalDigits.all (·.toLower.isAlphanum) = true := rfl
  exact List.all_eq_true.mp all digit
    (Escape.mem_of_isHexadecimal (List.all_eq_true.mp hexadecimal digit isDigit))

end Attestation

open Attestation in
theorem ChainKind.isPlain_of_adapt {kind : ChainKind} {raw : Json.Value} {event : Event}
    (notSolana : kind ≠ .solana) (notSui : kind ≠ .sui) (adapted : kind.adapt raw = .ok event) :
    isPlain event.sourceTxHash = true := by
  simp only [adapt, Except.bind_eq_ok] at adapted
  rcases adapted with ⟨hash, isHash, adapted⟩
  have same : event.sourceTxHash = hash := by
    rcases adapted with ⟨_, -, _, -, _, -, _, -, _, -, _, -, _, -, _, -, _, -, same⟩
    cases same
    rfl
  rw [same]
  unfold Adaptation.transactionHash at isHash
  dsimp only at isHash
  split at isHash
  · split at isHash
    · cases isHash
    · exact isPlain_of_normalizeHash notSolana notSui isHash
  · cases isHash

namespace Attestation

/-! ## What lookups ask for -/

/-- A lookup asks for the hash of its event and for nothing else if the hash is
plain, which it is but on the chains that keep their identifiers as they are;
plain hashes are never confused. -/
theorem lookups_ask_for_hashes {kind : ChainKind} {raw : Json.Value} {event : Event}
    {base : String} {request : HttpRequest} (adapted : kind.adapt raw = .ok event)
    (unasked : '?' ∉ base.toList) (unmarked : '#' ∉ base.toList)
    (made : lookupRequest base event.sourceTxHash = .ok request) :
    (kind ≠ .solana → kind ≠ .sui → isPlain event.sourceTxHash = true) ∧
      (request.url.parameters = [(Bytes.ofText "txHash", Bytes.ofText event.sourceTxHash)] ↔
        isPlain event.sourceTxHash = true) ∧
      ∀ other request', lookupRequest base other = .ok request' →
        isPlain event.sourceTxHash = true → isPlain other = true →
        request'.url.target = request.url.target → other = event.sourceTxHash := by
  rcases url_of_lookupRequest unasked unmarked made with ⟨url, front, sends⟩
  have spares := Url.sparesMarks_queryReserved url
  rcases sends _ rfl with ⟨target, parameters⟩
  refine ⟨fun notSolana notSui => kind.isPlain_of_adapt notSolana notSui adapted, ?_, ?_⟩
  · rw [parameters]
    exact parameters_eq_iff spares event.sourceTxHash
  · intro other request' made' plain plain' same
    rcases url_of_lookupRequest unasked unmarked made' with ⟨url', front', sends'⟩
    rw [front] at front'
    cases front'
    rcases sends' _ rfl with ⟨target', -⟩
    rw [target, target', String.append_right_inj, String.append_right_inj] at same
    exact eq_of_query spares plain' plain (String.ofList_injective same)

namespace Sample

def base : String :=
  "http://[::1]"

def address : Url where
  scheme := "http"
  authority := some
    { credentials := none, host := .ipv6 [0, 0, 0, 0, 0, 0, 0, 1], portNumber := none }
  path := "/api/v1/operations"
  query := none
  fragment := none

theorem parseFront_base : Url.parseFront (Url.cleanFront (addressFront base)) = .ok address :=
  rfl

def payload (signature : String) : Json.Value :=
  .object [
    ("signature", .text signature),
    ("data", .object [
      ("wallet_pub_key_hash", .text "0x00112233445566778899aabbccddeeff00112233"),
      ("main_utxo", .object [
        ("tx_hash", .text "0x00112233445566778899aabbccddeeff00112233445566778899aabbccddeeff"),
        ("tx_output_index", .number "1"),
        ("tx_output_value", .number "2")]),
      ("redeemer_output_script", .text "0x76"),
      ("amount", .number "5")])]

def event (signature : String) : Event where
  walletPubKeyHash := "0x00112233445566778899aabbccddeeff00112233"
  mainUtxo := ⟨"0x00112233445566778899aabbccddeeff00112233445566778899aabbccddeeff", 1, 2⟩
  redeemerOutputScript := "0x76"
  amount := 5
  sourceTxHash := signature

theorem adapt_payload (signature : String) (filled : signature.isEmpty = false) :
    ChainKind.solana.adapt (payload signature) = .ok (event signature) := by
  have hash : Adaptation.transactionHash .solana (payload signature) = .ok signature := by
    change (if signature.isEmpty then _ else Except.ok signature) = _
    rw [filled]
    rfl
  unfold ChainKind.adapt
  rw [hash]
  rfl

def request (hash : String) : HttpRequest where
  method := .get
  url := Url.withQuery (Url.cleanBack (fieldName ++ '=' :: hash.toList)) address
  body := none

theorem lookupRequest_base (hash : String) (sendable : (request hash).url.isSendable = true) :
    lookupRequest base hash = .ok (request hash) := by
  have unasked : '?' ∉ addressFront base := not_mem_addressFront (by decide) (by decide)
  have unmarked : '#' ∉ addressFront base := not_mem_addressFront (by decide) (by decide)
  have parsed := Url.parse_of_query unasked unmarked (fieldName ++ '=' :: hash.toList)
  rw [parseFront_base, ← lookupAddress_eq] at parsed
  exact HttpRequest.make_eq_ok_iff.mpr ⟨_, parsed, rfl, sendable, rfl⟩

end Sample

open Sample in
theorem lookups_ask_for_plain_hash :
    ∃ event request, ChainKind.solana.adapt (payload "Sig1") = .ok event ∧
      lookupRequest base event.sourceTxHash = .ok request ∧
      request.url.parameters =
        [(Bytes.ofText "txHash", Bytes.ofText event.sourceTxHash)] := by
  have adapted := adapt_payload "Sig1" rfl
  have made := lookupRequest_base "Sig1" (by decide +kernel)
  have asks := (lookups_ask_for_hashes adapted (by decide) (by decide) made).2.1
  exact ⟨_, _, adapted, made, asks.mpr (by decide +kernel)⟩

open Sample in
/-- An ampersand ends the field, and what is behind a number sign is not sent. -/
theorem marked_hashes_taken_apart :
    (∃ event request, ChainKind.solana.adapt (payload "Sig1&x") = .ok event ∧
      lookupRequest base event.sourceTxHash = .ok request ∧
      request.url.parameters ≠
        [(Bytes.ofText "txHash", Bytes.ofText event.sourceTxHash)]) ∧
    ∃ event event' request request', ChainKind.solana.adapt (payload "Sig1") = .ok event ∧
      ChainKind.solana.adapt (payload "Sig1#x") = .ok event' ∧
      lookupRequest base event.sourceTxHash = .ok request ∧
      lookupRequest base event'.sourceTxHash = .ok request' ∧
      event.sourceTxHash ≠ event'.sourceTxHash ∧ request.url.target = request'.url.target := by
  constructor
  · exact ⟨_, _, adapt_payload "Sig1&x" rfl, lookupRequest_base "Sig1&x" (by decide +kernel),
      by decide +kernel⟩
  · exact ⟨_, _, _, _, adapt_payload "Sig1" rfl, adapt_payload "Sig1#x" rfl,
      lookupRequest_base "Sig1" (by decide +kernel),
      lookupRequest_base "Sig1#x" (by decide +kernel), by decide, by decide +kernel⟩

end Attestation

end RedemptionRelay

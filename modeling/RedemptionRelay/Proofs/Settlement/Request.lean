import RedemptionRelay.Proofs.Http.Query
import RedemptionRelay.Proofs.Redemption.Documents
import RedemptionRelay.Proofs.Text.Hex
import RedemptionRelay.Settlement

/-! # What is submitted

The document that is posted to the signing service has a field for the payload
and one for each part of the event. All of them are found in it again, so that
no two submissions are written alike.
-/

namespace RedemptionRelay

open Json (Tree Value)

namespace Settlement

/-- The document of a submission: these fields and no others. -/
inductive IsSubmission (payload : Bytes) (event : Event) : Tree → Prop
  | object {encoded : String} (marked : Hex.IsMarked (2 * payload.length) encoded)
      (decodes : Hex.decodeMarked encoded = .ok payload) :
      IsSubmission payload event <| .object [
        (some "encoded_vm", .text (some encoded)),
        (some "wallet_pub_key_hash", .text (some event.walletPubKeyHash)),
        (some "main_utxo", .object [
          (some "tx_hash", .text (some event.mainUtxo.txHash)),
          (some "tx_output_index", .number event.mainUtxo.outputIndex.repr),
          (some "tx_output_value", .number event.mainUtxo.outputValue.repr)]),
        (some "redeemer_output_script", .text (some event.redeemerOutputScript)),
        (some "amount", .text (some event.amount.repr)),
        (some "source_tx_hash", .text (some event.sourceTxHash))]

def Posts (request : HttpRequest) (payload : Bytes) (event : Event) : Prop :=
  request.method = .post ∧ ∃ body tree, request.body = some body ∧ Tree.ofText? body = some tree ∧
    IsSubmission payload event tree

section

variable {payload other : Bytes} {event otherEvent : Event}

theorem spelled_requestJson (payload : Bytes) (event : Event) :
    (requestJson payload event).Spelled := by
  simp [requestJson, MainUtxo.json, Value.Spelled, Value.MembersSpelled, Value.spelled_ofNat]

theorem isSubmission_requestJson (payload : Bytes) (event : Event) :
    IsSubmission payload event (requestJson payload event).tree :=
  .object (Hex.isMarked_encodeMarked payload) (Hex.decodeMarked_encodeMarked payload)

theorem IsSubmission.unique {tree : Tree} (submits : IsSubmission payload event tree)
    (submitsOther : IsSubmission other otherEvent tree) : payload = other ∧ event = otherEvent := by
  rcases submits with ⟨-, decodes⟩
  generalize isTree : Tree.object _ = tree at submitsOther
  rcases submitsOther with ⟨-, decodesOther⟩
  rcases event with ⟨wallet, ⟨txHash, index, value⟩, script, amount, hash⟩
  rcases otherEvent with ⟨_, ⟨_, otherIndex, otherValue⟩, _, otherAmount, _⟩
  simp only [Tree.object.injEq, List.cons.injEq, Prod.mk.injEq, Tree.text.injEq,
    Tree.number.injEq, Option.some.injEq, Digits.repr_injective.eq_iff, true_and,
    and_true] at isTree
  rcases isTree with ⟨rfl, rfl, ⟨rfl, rfl, rfl⟩, rfl, rfl, rfl⟩
  rw [decodes] at decodesOther
  exact ⟨Except.ok.inj decodesOther, rfl⟩

section

variable {base otherBase : String} {request otherRequest : HttpRequest}

theorem posts_of_submitRequest (made : submitRequest base payload event = .ok request) :
    Posts request payload event := by
  rcases HttpRequest.make_eq_ok_iff.mp made with ⟨url, -, -, -, rfl⟩
  exact ⟨rfl, _, _, rfl, Tree.ofText?_write (spelled_requestJson payload event),
    isSubmission_requestJson payload event⟩

theorem Posts.unique (posts : Posts request payload event)
    (postsOther : Posts otherRequest other otherEvent) (same : request.body = otherRequest.body) :
    payload = other ∧ event = otherEvent := by
  rcases posts with ⟨-, body, tree, isBody, reads, submits⟩
  rcases postsOther with ⟨-, otherBody, otherTree, isOtherBody, readsOther, submitsOther⟩
  rw [isBody, isOtherBody] at same
  cases same
  rw [reads] at readsOther
  cases readsOther
  exact submits.unique submitsOther

/-- A submission is posted with all that it consists of, so that the bodies of
two differ unless they are the same submission, whichever service it is for. -/
theorem submitRequest_lossless (made : submitRequest base payload event = .ok request)
    (madeOther : submitRequest otherBase other otherEvent = .ok otherRequest) :
    Posts request payload event ∧
      (request.body = otherRequest.body → payload = other ∧ event = otherEvent) :=
  ⟨posts_of_submitRequest made,
    (posts_of_submitRequest made).unique (posts_of_submitRequest madeOther)⟩

end

end

/-! ## Two submissions -/

namespace Sample

def address (host : Host) : Url where
  scheme := "http"
  authority := some { credentials := none, host, portNumber := none }
  path := "/submit"
  query := none
  fragment := none

def event : Event where
  walletPubKeyHash := "\"\\\n"
  mainUtxo := { txHash := "0x01", outputIndex := 1, outputValue := 2 }
  redeemerOutputScript := ""
  amount := 2 ^ 128 - 1
  sourceTxHash := "\u0000\x7f\u2028"

end Sample

open Sample in
theorem submitRequest_lossless_of_services :
    ∃ request otherRequest,
      submitRequest "http://[::1]" [0xde, 0xad] event = .ok request ∧
        submitRequest "http://[::2]/" [0xde] event = .ok otherRequest ∧
          Posts request [0xde, 0xad] event ∧ request.body ≠ otherRequest.body := by
  have made : submitRequest "http://[::1]" [0xde, 0xad] event = .ok _ :=
    HttpRequest.make_eq_ok_iff.mpr ⟨address (.ipv6 [0, 0, 0, 0, 0, 0, 0, 1]), rfl,
      rfl, rfl, rfl⟩
  have madeOther : submitRequest "http://[::2]/" [0xde] event = .ok _ :=
    HttpRequest.make_eq_ok_iff.mpr ⟨address (.ipv6 [0, 0, 0, 0, 0, 0, 0, 2]), rfl,
      rfl, rfl, rfl⟩
  rcases submitRequest_lossless made madeOther with ⟨posts, unique⟩
  exact ⟨_, _, made, madeOther, posts, fun same => by cases (unique same).1⟩

end Settlement

end RedemptionRelay

import RedemptionRelay.Json.Shape
import RedemptionRelay.Json.Writer
import RedemptionRelay.Redemption
import RedemptionRelay.Text.Hex

/-! # Records as JSON

Each structure is written as an object with its fields in a fixed order; absent
values are null. Reading accepts what `Json.Tree.fields?` accepts and refuses
numbers that do not fit their width. The payload is hexadecimal behind the `0x`
mark, and is the one optional field that must be given.
-/

namespace RedemptionRelay

open Json (Value Tree)

def MainUtxo.json (utxo : MainUtxo) : Value :=
  .object [
    ("tx_hash", .text utxo.txHash),
    ("tx_output_index", .ofNat utxo.outputIndex),
    ("tx_output_value", .ofNat utxo.outputValue)]

def MainUtxo.ofJson? (tree : Tree) : Option MainUtxo := do
  let fields ← tree.fields? ["tx_hash", "tx_output_index", "tx_output_value"] 3
  let txHash ← fields.required? "tx_hash" Tree.text?
  let outputIndex ← fields.required? "tx_output_index" (Tree.natural? Width.bound32)
  let outputValue ← fields.required? "tx_output_value" (Tree.natural? Width.bound64)
  return { txHash, outputIndex, outputValue }

def Event.json (event : Event) : Value :=
  .object [
    ("wallet_pub_key_hash", .text event.walletPubKeyHash),
    ("main_utxo", event.mainUtxo.json),
    ("redeemer_output_script", .text event.redeemerOutputScript),
    ("amount", .ofNat event.amount),
    ("source_tx_hash", .text event.sourceTxHash)]

def Event.ofJson? (tree : Tree) : Option Event := do
  let fields ← tree.fields?
    ["wallet_pub_key_hash", "main_utxo", "redeemer_output_script", "amount", "source_tx_hash"] 5
  let walletPubKeyHash ← fields.required? "wallet_pub_key_hash" Tree.text?
  let mainUtxo ← fields.required? "main_utxo" MainUtxo.ofJson?
  let redeemerOutputScript ← fields.required? "redeemer_output_script" Tree.text?
  let amount ← fields.required? "amount" (Tree.natural? Width.bound128)
  let sourceTxHash ← fields.required? "source_tx_hash" Tree.text?
  return { walletPubKeyHash, mainUtxo, redeemerOutputScript, amount, sourceTxHash }

def Dates.json (dates : Dates) : Value :=
  .object [
    ("created_at", .ofNat dates.createdAt),
    ("attestation_fetched_at", .ofOption .ofNat dates.attestationFetchedAt),
    ("settlement_submitted_at", .ofOption .ofNat dates.settlementSubmittedAt),
    ("completed_at", .ofOption .ofNat dates.completedAt),
    ("last_activity_at", .ofNat dates.lastActivityAt)]

def Dates.ofJson? (tree : Tree) : Option Dates := do
  let time := Tree.natural? Width.bound64
  let fields ← tree.fields?
    ["created_at", "attestation_fetched_at", "settlement_submitted_at", "completed_at",
      "last_activity_at"] 5
  let createdAt ← fields.required? "created_at" time
  let attestationFetchedAt ← fields.optional? "attestation_fetched_at" time
  let settlementSubmittedAt ← fields.optional? "settlement_submitted_at" time
  let completedAt ← fields.optional? "completed_at" time
  let lastActivityAt ← fields.required? "last_activity_at" time
  return { createdAt, attestationFetchedAt, settlementSubmittedAt, completedAt, lastActivityAt }

def LogEntry.json (entry : LogEntry) : Value :=
  .object [("at", .ofNat entry.time), ("message", .text entry.message)]

def LogEntry.ofJson? (tree : Tree) : Option LogEntry := do
  let fields ← tree.fields? ["at", "message"] 2
  let time ← fields.required? "at" (Tree.natural? Width.bound64)
  let message ← fields.required? "message" Tree.text?
  return { time, message }

def Status.ofJson? (tree : Tree) : Option Status :=
  tree.word?.bind Status.ofText?

def AttestationState.ofJson? (tree : Tree) : Option AttestationState :=
  tree.word?.bind AttestationState.ofText?

def logsJson (logs : List LogEntry) : Value :=
  .array (logs.map LogEntry.json)

def logsOfJson? (tree : Tree) : Option (List LogEntry) :=
  tree.list? LogEntry.ofJson?

def payloadOfJson? (tree : Tree) : Option Bytes := do
  let text ← tree.text?
  (Hex.decodeMarked text).toOption

namespace Redemption

def json (record : Redemption) : Value :=
  .object [
    ("id", .text record.id),
    ("chain_name", .text record.chain),
    ("event", record.event.json),
    ("attestation_payload", .ofText? (record.payload.map Hex.encodeMarked)),
    ("attestation_state", .text record.attestation.text),
    ("settlement_tx_hash", .ofText? record.settlement),
    ("status", .text record.status.text),
    ("error", .ofText? record.error),
    ("retry_count", .ofNat record.retryCount),
    ("lease_expires_at", .ofOption .ofNat record.leaseExpiresAt),
    ("version", .ofNat record.version),
    ("dates", record.dates.json),
    ("logs", logsJson record.logs)]

def ofJson? (tree : Tree) : Option Redemption := do
  let fields ← tree.fields?
    ["id", "chain_name", "event", "attestation_payload", "attestation_state",
      "settlement_tx_hash", "status", "error", "retry_count", "lease_expires_at", "version",
      "dates", "logs"] 13
  let id ← fields.required? "id" Tree.text?
  let chain ← fields.required? "chain_name" Tree.text?
  let event ← fields.required? "event" Event.ofJson?
  let payload ← fields.required? "attestation_payload" (Tree.optional? payloadOfJson?)
  let attestation ← fields.required? "attestation_state" AttestationState.ofJson?
  let settlement ← fields.optional? "settlement_tx_hash" Tree.text?
  let status ← fields.required? "status" Status.ofJson?
  let error ← fields.optional? "error" Tree.text?
  let retryCount ← fields.required? "retry_count" (Tree.natural? Width.bound32)
  let leaseExpiresAt ← fields.optional? "lease_expires_at" (Tree.natural? Width.bound64)
  let version ← fields.required? "version" (Tree.natural? Width.bound64)
  let dates ← fields.required? "dates" Dates.ofJson?
  let logs ← fields.required? "logs" logsOfJson?
  return {
    id, chain, event, payload, attestation, settlement, status, error, retryCount,
    leaseExpiresAt, version, dates, logs }

def write (record : Redemption) : String :=
  record.json.write

def read? (text : String) : Option Redemption :=
  (Tree.ofText? text).bind ofJson?

end Redemption

end RedemptionRelay

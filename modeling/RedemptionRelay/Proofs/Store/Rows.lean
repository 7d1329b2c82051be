import RedemptionRelay.Proofs.Redemption.Changes
import RedemptionRelay.Proofs.Redemption.Documents
import RedemptionRelay.Store.Table.Row

/-! # Rows stand for records

A record whose numbers fit their widths is read back from its row as it was,
and a row that an update has written is the row of the updated record.
-/

namespace RedemptionRelay

theorem Status.text_inj {left right : Status} (sameText : left.text = right.text) :
    left = right := by
  have sameStatus := congrArg Status.ofText? sameText
  rw [ofText?_text, ofText?_text] at sameStatus
  exact Option.some.inj sameStatus

/-! ## Cells -/

namespace Cell

/-- The sign that a number of 64 bits takes on is lost again in any narrower width. -/
theorem unsigned?_ofNat {bound value : Nat} (narrower : bound ∣ Width.bound64)
    (fits : value < bound) : (Cell.ofNat value).unsigned? bound = some value := by
  rcases narrower with ⟨factor, wide⟩
  have sameLowBits : signed64 value % bound = (value : Int) % bound := by
    unfold signed64
    split
    · rfl
    · rw [wide, Int.natCast_mul, Int.sub_mul_emod_self_left]
  show some (signed64 value % bound).toNat = some value
  rw [sameLowBits, ← Int.natCast_emod, Nat.mod_eq_of_lt fits, Int.toNat_natCast]

theorem ofNat_inj {left right : Nat} (leftFits : left < Width.bound64)
    (rightFits : right < Width.bound64) (sameCell : Cell.ofNat left = Cell.ofNat right) :
    left = right := by
  have sameNumber := congrArg (Cell.unsigned? Width.bound64) sameCell
  rw [unsigned?_ofNat (Nat.dvd_refl _) leftFits,
    unsigned?_ofNat (Nat.dvd_refl _) rightFits] at sameNumber
  exact Option.some.inj sameNumber

theorem optional?_ofOption {α : Type} {ofSome : α → Cell} {read : Cell → Option α}
    (refuses : read .null = none) {content : Option α}
    (reads : ∀ value ∈ content, read (ofSome value) = some value) :
    (Cell.ofOption ofSome content).optional? read = some content := by
  cases content with
  | none => rfl
  | some value =>
      have here := reads value rfl
      show (ofSome value).optional? read = _
      cases cell : ofSome value with
      | null =>
          rw [cell, refuses] at here
          cases here
      | integer | real | text | blob =>
          rw [cell] at here
          simp [optional?, here]

theorem optional?_text (content : Option String) :
    (Cell.ofOption .text content).optional? Cell.text? = some content :=
  optional?_ofOption rfl fun _ _ => rfl

theorem optional?_blob (content : Option Bytes) :
    (Cell.ofOption .blob content).optional? Cell.blob? = some content :=
  optional?_ofOption rfl fun _ _ => rfl

theorem optional?_time {content : Option Nat}
    (fits : ∀ time ∈ content, time < Width.bound64) :
    (Cell.ofOption Cell.ofNat content).optional? (Cell.unsigned? Width.bound64) = some content :=
  optional?_ofOption rfl fun time there => unsigned?_ofNat (Nat.dvd_refl _) (fits time there)

end Cell

/-! ## Rows -/

namespace Row

variable {record : Redemption}

theorem event?_ofRecord (fits : record.event.InRange) :
    (Row.ofRecord record).event? = some record.event := by
  simp [event?, ofRecord, Cell.text?, Json.Tree.ofText?_write record.event.spelled_json,
    Event.ofJson?_tree fits]

theorem logs?_ofRecord (fit : ∀ entry ∈ record.logs, entry.time < Width.bound64) :
    (Row.ofRecord record).logs? = some record.logs := by
  simp [logs?, ofRecord, Cell.text?, Json.Tree.ofText?_write (spelled_logsJson record.logs),
    logsOfJson?_tree fit]

theorem dates?_ofRecord (fit : record.dates.InRange) :
    (Row.ofRecord record).dates? = some record.dates := by
  rcases fit with ⟨created, fetched, submitted, completed, active⟩
  simp only [dates?, ofRecord, Cell.unsigned?_ofNat (Nat.dvd_refl _) created,
    Cell.optional?_time fetched, Cell.optional?_time submitted, Cell.optional?_time completed,
    Cell.unsigned?_ofNat (Nat.dvd_refl _) active]
  rfl

theorem status?_ofRecord : (Row.ofRecord record).status? = some record.status :=
  Status.ofText?_text record.status

theorem record?_ofRecord (fits : record.InRange) :
    (Row.ofRecord record).record? = some record := by
  rcases fits with ⟨event, retries, lease, version, dates, logs⟩
  rw [record?, event?_ofRecord event, status?_ofRecord, dates?_ofRecord dates,
    logs?_ofRecord logs]
  simp only [ofRecord, Cell.optional?_time lease, Cell.unsigned?_ofNat (Nat.dvd_refl _) version,
    Cell.unsigned?_ofNat (show Width.bound32 ∣ Width.bound64 by decide) retries,
    Cell.optional?_text, Cell.optional?_blob, Cell.text?, Option.bind_some,
    AttestationState.ofText?_text]
  rfl

theorem filterMap_record? {records : List Redemption}
    (fit : ∀ record ∈ records, record.InRange) :
    (records.map Row.ofRecord).filterMap Row.record? = records := by
  induction records with
  | nil => rfl
  | cons record records induction =>
      rcases List.forall_mem_cons.mp fit with ⟨fits, others⟩
      rw [List.map_cons, List.filterMap_cons, record?_ofRecord fits]
      exact congrArg (record :: ·) (induction others)

theorem updated_ofRecord {next : Redemption} (same : next.SameRequest record) :
    (Row.ofRecord record).updated next = Row.ofRecord next := by
  simp [updated, ofRecord, same.id, same.chain, same.event, same.createdAt]

end Row

end RedemptionRelay

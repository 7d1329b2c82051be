import RedemptionRelay.Redemption

/-! # Editing a record in place

The functions of `Redemption` say which record a change leads to. Here the same
changes are made on a record that lies before the worker, one field after the
other. An edit may break off on the way, and what it has written by then stays
written.
-/

namespace RedemptionRelay

/-- Steps on one record; an error does not take back what was written before it. -/
abbrev Editing := ExceptT TransitionError (StateM Redemption)

namespace Editing

def carryOut {α : Type} (steps : Editing α) (record : Redemption) :
    Except TransitionError α × Redemption :=
  (steps.run.run record).run

def touch (now : Nat) : Editing Unit :=
  modify fun record => { record with dates := { record.dates with lastActivityAt := now } }

def log (message : String) (logged : Nat) : Editing Unit := do
  modify fun record => { record with logs := record.logs ++ [⟨logged, message⟩] }
  let length := (← get).logs.length
  if logCapacity < length then
    modify fun record => { record with logs := record.logs.drop (length - logCapacity) }

def claim (leaseUntil now : Nat) : Editing Unit := do
  modify fun record => { record with leaseExpiresAt := some leaseUntil }
  touch now

def release (now : Nat) : Editing Unit := do
  modify fun record => { record with leaseExpiresAt := none }
  touch now

def become (next : Status) (now : Nat) : Editing Unit := do
  let status := (← get).status
  if !status.canBecome next then
    throw ⟨status, next⟩
  modify fun record => { record with status := next }
  modify fun record => { record with leaseExpiresAt := none }
  touch now

def markFetched (payload : Bytes) (now logged : Nat) : Editing Unit := do
  become .fetched now
  modify fun record => { record with payload := some payload }
  modify fun record => { record with attestation := .fetched }
  modify fun record =>
    { record with
      dates := { record.dates with attestationFetchedAt := some record.dates.lastActivityAt } }
  modify fun record => { record with error := none }
  modify fun record => { record with retryCount := 0 }
  log "attestation fetched" logged

def markFetchFailed (error : String) (now logged : Nat) : Editing Unit := do
  become .fetchFailed now
  modify fun record => { record with attestation := .fetchFailed }
  modify fun record => { record with retryCount := record.retryCount + 1 }
  log s!"attestation fetch failed (attempt {(← get).retryCount}): {error}" logged
  modify fun record => { record with error := some error }

def markCompleted (settlement : String) (now logged : Nat) : Editing Unit := do
  become .completed now
  let submitted := (← get).dates.lastActivityAt
  log s!"settlement submitted: {settlement}" logged
  modify fun record => { record with settlement := some settlement }
  modify fun record =>
    { record with dates := { record.dates with settlementSubmittedAt := some submitted } }
  modify fun record => { record with dates := { record.dates with completedAt := some submitted } }
  modify fun record => { record with error := none }
  modify fun record => { record with retryCount := 0 }

def markSubmitFailed (error : String) (now logged : Nat) : Editing Unit := do
  become .submitFailed now
  modify fun record => { record with retryCount := record.retryCount + 1 }
  log s!"settlement failed (attempt {(← get).retryCount}): {error}" logged
  modify fun record => { record with error := some error }

def markFailed (error : String) (now logged : Nat) : Editing Unit := do
  become .failed now
  if (← get).attestation ≠ .fetched then
    modify fun record => { record with attestation := .fetchFailed }
  log s!"failed: {error}" logged
  modify fun record => { record with error := some error }

/-! What each kind of step does to the record. -/

variable {α β : Type} (record : Redemption)

@[simp]
theorem carryOut_bind (steps : Editing α) (rest : α → Editing β) :
    (steps >>= rest).carryOut record =
      match steps.carryOut record with
      | (.ok value, next) => (rest value).carryOut next
      | (.error error, next) => (.error error, next) := by
  simp only [carryOut, ExceptT.run_bind, StateT.run_bind, Id.run_bind]
  rcases (steps.run.run record).run with ⟨_ | _, _⟩ <;> rfl

@[simp]
theorem carryOut_pure (value : α) :
    (pure value : Editing α).carryOut record = (.ok value, record) :=
  rfl

@[simp]
theorem carryOut_throw (error : TransitionError) :
    (throw error : Editing α).carryOut record = (.error error, record) :=
  rfl

@[simp]
theorem carryOut_get : (get : Editing Redemption).carryOut record = (.ok record, record) :=
  rfl

@[simp]
theorem carryOut_modify (change : Redemption → Redemption) :
    (modify change : Editing PUnit).carryOut record = (.ok ⟨⟩, change record) :=
  rfl

end Editing

/-! ## Edits -/

/-- A change of a record, or an entry of its own on the trail, with the times
that are read off the clock for it. -/
inductive Edit where
  | change (mark : Mark) (now logged : Nat)
  | note (message : String) (logged : Nat)
deriving DecidableEq, Repr

namespace Edit

def steps : Edit → Editing Unit
  | .change (.claim leaseUntil) now _ => Editing.claim leaseUntil now
  | .change .release now _ => Editing.release now
  | .change (.fetched payload) now logged => Editing.markFetched payload now logged
  | .change (.fetchFailed error) now logged => Editing.markFetchFailed error now logged
  | .change (.completed settlement) now logged => Editing.markCompleted settlement now logged
  | .change (.submitFailed error) now logged => Editing.markSubmitFailed error now logged
  | .change (.failed error) now logged => Editing.markFailed error now logged
  | .note message logged => Editing.log message logged

end Edit

end RedemptionRelay

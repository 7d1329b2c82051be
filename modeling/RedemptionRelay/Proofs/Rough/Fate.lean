import RedemptionRelay.Proofs.Course
import RedemptionRelay.Proofs.Decision
import RedemptionRelay.Proofs.Redemption.Traces
import RedemptionRelay.Proofs.Rough

/-! # What becomes of one record

Alone with a store in order, a batch deals with a record as if there were no
other: the record itself, the moment and the weather decide what is done, what
the store holds in the end, and when that is.
-/

namespace RedemptionRelay

/-- What becomes of a record in the hands of a batch. -/
structure Fate where
  /-- Nothing where the batch breaks off. -/
  outcome : Option Outcome
  /-- What the store holds of it then. -/
  record : Redemption
  deeds : List Deed
  clock : Nat

theorem subject_of_call? {phase : Phase} {record : Redemption} {call : Call}
    (isCall : RetryPolicy.call? phase record = some call) :
    call.subject = record.event.sourceTxHash := by
  cases phase with
  | attestation =>
      cases isCall
      rfl
  | settlement =>
      rcases Option.map_eq_some_iff.mp isCall with ⟨payload, -, rfl⟩
      rfl

theorem redemptionId_of_milestone? {record : Redemption} {outcome : Outcome}
    {milestone : Milestone} (reached : Batch.milestone? record outcome = some milestone) :
    milestone.redemptionId = record.id := by
  unfold Batch.milestone? Milestone.reached? at reached
  split at reached
  · cases reached
  · split at reached <;> cases reached <;> rfl

theorem RetryPolicy.lease?_conclude {policy : RetryPolicy} {claimed : Redemption} {started : Nat}
    {call : Call} {reply : Option call.Reply} :
    (policy.conclude claimed started call reply).1.lease? = none := by
  cases call with
  | fetch sourceTxHash =>
      dsimp only [conclude]
      unfold concludeFetch
      split
      case h_5 => split <;> rfl
      all_goals rfl
  | submit payload event =>
      dsimp only [conclude]
      unfold concludeSubmit
      split
      case h_3 => split <;> rfl
      all_goals rfl

namespace Weather

def secondOf (moment : Nat) : Nat :=
  moment / Duration.nanosecondsPerSecond

section

variable (weather : Weather)

def commit (record next : Redemption) (outcome : Outcome) (moment : Nat) : Fate :=
  let request := .update next next.version
  let written := weather.answered moment request
  match weather.fault? moment request with
  | some error => ⟨some (Batch.loss error), record, [.refused next error], written⟩
  | none =>
      let stored := { next with version := next.version + 1 }
      match Batch.milestone? next outcome with
      | none => ⟨some outcome, stored, [.stored stored], written⟩
      | some milestone =>
          ⟨some outcome, stored, [.stored stored, .announced milestone],
            weather.answered written (.announce milestone)⟩

def conclusion (record : Redemption) (mark : Mark) (outcome : Outcome) (moment : Nat) : Fate :=
  let marked := weather.answered moment .readClock
  let logged := weather.answered marked .readClock
  match record.apply mark (secondOf marked) (secondOf logged) with
  | .error _ => ⟨some .failed, record, [], logged⟩
  | .ok next => weather.commit record next outcome logged

def errand (policy : RetryPolicy) (claimed : Redemption) (attempt : Attempt) (moment : Nat) :
    Fate :=
  let reply := weather.reply moment attempt.call
  let concluded := policy.conclude claimed attempt.started attempt.call reply
  let ended := weather.conclusion claimed concluded.1 concluded.2
    (weather.answered moment (.perform attempt.call attempt.limit))
  { ended with
    deeds := [.called attempt.call.subject attempt.call,
      .replied attempt.call.subject attempt.call reply] ++ ended.deeds }

def claim (record : Redemption) (leaseUntil moment : Nat) : Redemption :=
  record.claim leaseUntil (secondOf (weather.answered moment .readClock))

def pursuit (policy : RetryPolicy) (record : Redemption) (leaseUntil : Nat) (attempt : Attempt)
    (moment : Nat) : Fate :=
  let claim := weather.claim record leaseUntil moment
  let request := .update claim record.version
  let claiming := weather.answered moment .readClock
  let written := weather.answered claiming request
  match weather.fault? claiming request with
  | some error => ⟨some (Batch.loss error), record, [.refused claim error], written⟩
  | none =>
      let claimed := { claim with version := record.version + 1 }
      let ended := weather.errand policy claimed attempt written
      { ended with deeds := [.stored claimed] ++ ended.deeds }

def sequel (policy : RetryPolicy) (record : Redemption) (started : Nat) : Decision → Fate
  | .skip reason => ⟨some (.skipped reason), record, [], started⟩
  | .abandon error => weather.conclusion record (.failed error) .failed started
  | .attempt call limit leaseUntil =>
      weather.pursuit policy record leaseUntil ⟨call, limit, secondOf started⟩ started
  | .overflow => ⟨none, record, [], started⟩

def fate (phase : Phase) (policy : RetryPolicy) (record : Redemption) (moment : Nat) : Fate :=
  let started := weather.answered moment .readClock
  weather.sequel policy record started (policy.decide phase record (secondOf started))

end

variable {weather : Weather} {policy : RetryPolicy} {phase : Phase} {record : Redemption}
  {moment : Nat}

section

variable {leaseUntil : Nat} {attempt : Attempt}

theorem pursuit_of_fault {error : StoreError}
    (fails : weather.fault? (weather.answered moment .readClock)
      (.update (weather.claim record leaseUntil moment) record.version) = some error) :
    weather.pursuit policy record leaseUntil attempt moment =
      ⟨some (Batch.loss error), record,
        [.refused (weather.claim record leaseUntil moment) error],
        weather.answered (weather.answered moment .readClock)
          (.update (weather.claim record leaseUntil moment) record.version)⟩ := by
  unfold pursuit
  dsimp only
  rw [fails]

theorem pursuit_of_ok
    (works : weather.fault? (weather.answered moment .readClock)
      (.update (weather.claim record leaseUntil moment) record.version) = none) :
    weather.pursuit policy record leaseUntil attempt moment =
      let claimed := { weather.claim record leaseUntil moment with version := record.version + 1 }
      let ended := weather.errand policy claimed attempt
        (weather.answered (weather.answered moment .readClock)
          (.update (weather.claim record leaseUntil moment) record.version))
      { ended with deeds := [.stored claimed] ++ ended.deeds } := by
  unfold pursuit
  dsimp only
  rw [works]

end

theorem fate_of_decide {decision : Decision}
    (decided : policy.decide phase record (secondOf (weather.answered moment .readClock)) =
      decision) :
    weather.fate phase policy record moment =
      weather.sequel policy record (weather.answered moment .readClock) decision :=
  congrArg (weather.sequel policy record _) decided

/-! ## Commits that land -/

theorem record_commit {next : Redemption} {outcome : Outcome}
    (works : weather.fault? moment (.update next next.version) = none) :
    (weather.commit record next outcome moment).record =
      { next with version := next.version + 1 } := by
  unfold commit
  dsimp only
  rw [works]
  dsimp only
  split <;> rfl

theorem exists_record_conclusion {mark : Mark} {outcome : Outcome}
    (edge : ∀ target ∈ mark.target?, record.status.canBecome target)
    (lands : ∀ moment next expected, next.id = record.id →
      weather.fault? moment (.update next expected) = none) :
    ∃ now logged next, record.apply mark now logged = .ok next ∧
      (weather.conclusion record mark outcome moment).record =
        { next with version := next.version + 1 } := by
  unfold conclusion
  dsimp only
  let marked := weather.answered moment .readClock
  let logged := weather.answered marked .readClock
  obtain ⟨next, applied⟩ : ∃ next, record.apply mark (secondOf marked) (secondOf logged) = .ok next :=
    Redemption.exists_apply_of_canBecome edge
  refine ⟨_, _, next, applied, ?_⟩
  rw [applied]
  exact record_commit (lands _ _ _ (Redemption.sameRequest_of_apply applied).id)

/-! ## Outcomes -/

theorem isSome_outcome_of_commit {next : Redemption} {outcome : Outcome} :
    (weather.commit record next outcome moment).outcome.isSome := by
  unfold commit
  dsimp only
  split
  · rfl
  · split <;> rfl

theorem isSome_outcome_of_conclusion {mark : Mark} {outcome : Outcome} :
    (weather.conclusion record mark outcome moment).outcome.isSome := by
  unfold conclusion
  dsimp only
  split
  · rfl
  · exact isSome_outcome_of_commit

/-- A batch only breaks off at the end of time. -/
theorem isSome_outcome_of_fate
    (inTime : secondOf (weather.answered moment .readClock) +
      policy.holdSeconds (policy.timeout phase) ≤ Redemption.maxTime) :
    (weather.fate phase policy record moment).outcome.isSome := by
  cases decided : policy.decide phase record (secondOf (weather.answered moment .readClock)) with
  | skip reason =>
      rw [fate_of_decide decided]
      rfl
  | abandon error =>
      rw [fate_of_decide decided]
      exact isSome_outcome_of_conclusion
  | attempt call limit leaseUntil =>
      rw [fate_of_decide decided]
      unfold sequel pursuit
      dsimp only
      split
      · rfl
      · exact isSome_outcome_of_conclusion
  | overflow => exact absurd (RetryPolicy.late_of_decide decided) (Nat.not_lt_of_le inTime)

/-! ## Deeds -/

theorem subject_of_commit {next : Redemption} {outcome : Outcome} (request : next.id = record.id)
    {deed : Deed} (done : deed ∈ (weather.commit record next outcome moment).deeds) :
    deed.subject = record.id := by
  unfold commit at done
  dsimp only at done
  split at done
  · cases List.mem_singleton.mp done
    exact request
  · split at done
    · cases List.mem_singleton.mp done
      exact request
    · next milestone reached =>
        simp only [List.mem_cons, List.not_mem_nil, or_false] at done
        rcases done with rfl | rfl
        · exact request
        · exact (redemptionId_of_milestone? reached).trans request

theorem subject_of_conclusion {mark : Mark} {outcome : Outcome} {deed : Deed}
    (done : deed ∈ (weather.conclusion record mark outcome moment).deeds) :
    deed.subject = record.id := by
  unfold conclusion at done
  dsimp only at done
  split at done
  · cases done
  · next next applied => exact subject_of_commit (Redemption.sameRequest_of_apply applied).id done

theorem subject_of_errand {attempt : Attempt} {deed : Deed}
    (done : deed ∈ (weather.errand policy record attempt moment).deeds)
    (isCall : attempt.call.subject = record.id) : deed.subject = record.id := by
  unfold errand at done
  simp only [List.mem_append, List.mem_cons, List.not_mem_nil, or_false] at done
  rcases done with (rfl | rfl) | done
  · exact isCall
  · exact isCall
  · exact subject_of_conclusion done

theorem subject_of_pursuit {attempt : Attempt} {leaseUntil : Nat} {deed : Deed}
    (done : deed ∈ (weather.pursuit policy record leaseUntil attempt moment).deeds)
    (isCall : attempt.call.subject = record.id) : deed.subject = record.id := by
  unfold pursuit at done
  dsimp only at done
  split at done
  · cases List.mem_singleton.mp done
    rfl
  · rcases List.mem_append.mp done with claimed | done
    · cases List.mem_singleton.mp claimed
      rfl
    · have subject := subject_of_errand done isCall
      exact subject

theorem subject_of_fate (named : record.event.sourceTxHash = record.id) {deed : Deed}
    (done : deed ∈ (weather.fate phase policy record moment).deeds) :
    deed.subject = record.id := by
  unfold fate sequel at done
  dsimp only at done
  split at done
  · cases done
  · exact subject_of_conclusion done
  · next decided =>
      have isCall := (RetryPolicy.attempts_of_decide decided).isCall
      exact subject_of_pursuit done ((subject_of_call? isCall).trans named)
  · cases done

/-! ## Requests -/

theorem request_of_commit {next : Redemption} {outcome : Outcome}
    (request : next.SameRequest record) :
    (weather.commit record next outcome moment).record.SameRequest record := by
  unfold commit
  dsimp only
  split
  · exact ⟨rfl, rfl, rfl, rfl⟩
  · split <;> exact ⟨request.id, request.chain, request.event, request.createdAt⟩

theorem request_of_conclusion {mark : Mark} {outcome : Outcome} :
    (weather.conclusion record mark outcome moment).record.SameRequest record := by
  unfold conclusion
  dsimp only
  split
  · exact ⟨rfl, rfl, rfl, rfl⟩
  · next next applied => exact request_of_commit (Redemption.sameRequest_of_apply applied)

theorem request_of_pursuit {attempt : Attempt} {leaseUntil : Nat} :
    (weather.pursuit policy record leaseUntil attempt moment).record.SameRequest record := by
  unfold pursuit
  dsimp only
  split
  · exact ⟨rfl, rfl, rfl, rfl⟩
  · exact request_of_conclusion.trans ⟨rfl, rfl, rfl, rfl⟩

theorem request_of_fate :
    (weather.fate phase policy record moment).record.SameRequest record := by
  unfold fate sequel
  dsimp only
  split
  · exact ⟨rfl, rfl, rfl, rfl⟩
  · exact request_of_conclusion
  · exact request_of_pursuit
  · exact ⟨rfl, rfl, rfl, rfl⟩

/-! ## Weathers that agree on a record -/

section

variable {left right : Weather} {id : String}

theorem AgreesBut.commit (agree : left.AgreesBut id right) {next : Redemption} (outcome : Outcome)
    (other : next.id ≠ id) :
    left.commit record next outcome moment = right.commit record next outcome moment := by
  have isOther : (Request.update next next.version).subject? ≠ some id :=
    fun same => other (Option.some.inj same)
  unfold Weather.commit
  dsimp only
  rw [agree.fault? _ _ isOther, agree.answered isOther]
  split
  · rfl
  · split
    · rfl
    · next milestone reached =>
        have isOther : (Request.announce milestone).subject? ≠ some id := fun same =>
          other ((redemptionId_of_milestone? reached).symm.trans (Option.some.inj same))
        rw [agree.answered isOther]

theorem AgreesBut.readClock (agree : left.AgreesBut id right) (moment : Nat) :
    left.answered moment .readClock = right.answered moment .readClock :=
  agree.answered nofun

theorem AgreesBut.conclusion (agree : left.AgreesBut id right) (mark : Mark) (outcome : Outcome)
    (other : record.id ≠ id) :
    left.conclusion record mark outcome moment = right.conclusion record mark outcome moment := by
  unfold Weather.conclusion
  dsimp only
  rw [agree.readClock, agree.readClock]
  split
  · rfl
  · next next applied =>
      exact agree.commit outcome ((Redemption.sameRequest_of_apply applied).id ▸ other)

theorem AgreesBut.errand (agree : left.AgreesBut id right) (claimed : Redemption)
    {attempt : Attempt} (isCall : attempt.call.subject ≠ id) (other : claimed.id ≠ id) :
    left.errand policy claimed attempt moment = right.errand policy claimed attempt moment := by
  have isOther : (Request.perform attempt.call attempt.limit).subject? ≠ some id :=
    fun same => isCall (Option.some.inj same)
  unfold Weather.errand
  dsimp only
  rw [agree.reply moment attempt.call isCall, agree.answered isOther, agree.conclusion _ _ other]

theorem AgreesBut.pursuit (agree : left.AgreesBut id right) {leaseUntil : Nat} {attempt : Attempt}
    (isCall : attempt.call.subject ≠ id) (other : record.id ≠ id) :
    left.pursuit policy record leaseUntil attempt moment =
      right.pursuit policy record leaseUntil attempt moment := by
  have sameClaim : left.claim record leaseUntil moment = right.claim record leaseUntil moment := by
    unfold Weather.claim
    rw [agree.readClock]
  have isOther :
      (Request.update (right.claim record leaseUntil moment) record.version).subject? ≠ some id :=
    fun same => other (Option.some.inj same)
  unfold Weather.pursuit
  dsimp only
  rw [sameClaim, agree.readClock, agree.fault? _ _ isOther, agree.answered isOther]
  split
  · rfl
  · rw [agree.errand { right.claim record leaseUntil moment with version := record.version + 1 }
      isCall other]

theorem AgreesBut.fate (agree : left.AgreesBut id right)
    (named : record.event.sourceTxHash = record.id) (other : record.id ≠ id) :
    left.fate phase policy record moment = right.fate phase policy record moment := by
  unfold Weather.fate Weather.sequel
  dsimp only
  rw [agree.readClock]
  split
  · rfl
  · exact agree.conclusion _ _ other
  · next decided =>
      have isCall := subject_of_call? (RetryPolicy.attempts_of_decide decided).isCall
      exact agree.pursuit (isCall.trans named ▸ other) other
  · rfl

end

end Weather

end RedemptionRelay

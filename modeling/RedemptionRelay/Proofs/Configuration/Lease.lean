import RedemptionRelay.Configuration
import RedemptionRelay.Proofs.Chain.Adaptation
import RedemptionRelay.Proofs.Decision

/-! # Leases under a configuration

The time limits of the calls come from variables and are bounded by nothing but
their width. A lease is the exact sum of the moment of the decision, the limit
and the margin, as long as that sum is a time at all; past the last time there
is no lease, and the batch breaks off.
-/

namespace RedemptionRelay

def Phase.limitVariable : Phase → String
  | .attestation => "RELAYER_FETCH_TIMEOUT_SECS"
  | .settlement => "RELAYER_SUBMIT_TIMEOUT_SECS"

def Phase.defaultLimit : Phase → Nat
  | .attestation => 30
  | .settlement => 120

namespace Configuration

variable {lookup : String → Option String} {configuration : Configuration}

theorem lt_of_number {name : String} {bound fallback value : Nat} (fits : fallback < bound)
    (read : number lookup name bound fallback = .ok value) : value < bound := by
  unfold number at read
  split at read
  · exact Except.ok.inj read ▸ fits
  · split at read
    · split at read
      · next inWidth => exact Except.ok.inj read ▸ inWidth
      · cases read
    · cases read

def limit (configuration : Configuration) : Phase → Nat
  | .attestation => configuration.fetchTimeout
  | .settlement => configuration.submitTimeout

theorem limit_of_load (loaded : load lookup = .ok configuration) (phase : Phase) :
    number lookup phase.limitVariable Width.bound64 phase.defaultLimit =
      .ok (configuration.limit phase) := by
  unfold load at loaded
  simp only [Except.bind_eq_ok] at loaded
  rcases loaded with ⟨network, -, chains, -, signerUrl, -, pollSeconds, -, maxRetries, -,
    retryBackoff, -, attestationDeadline, -, fetchTimeout, fetches, submitTimeout, submits, built⟩
  cases built
  cases phase with
  | attestation => exact fetches
  | settlement => exact submits

theorem timeout_policy (phase : Phase) :
    configuration.policy.timeout phase = .ofSeconds (configuration.limit phase) := by
  cases phase <;> rfl

theorem holdSeconds_policy (phase : Phase) :
    configuration.policy.holdSeconds (configuration.policy.timeout phase) =
      configuration.limit phase + 30 := by
  rw [timeout_policy]
  show Duration.ceilSeconds ⟨configuration.limit phase * Duration.nanosecondsPerSecond +
    30 * Duration.nanosecondsPerSecond⟩ = _
  unfold Duration.ceilSeconds Duration.wholeSeconds Duration.nanosecondsPerSecond
  dsimp only
  split <;> omega

end Configuration

/-- How a policy leases records at `now` for the calls of a phase whose limit
has this many seconds. -/
structure RetryPolicy.Leases (policy : RetryPolicy) (phase : Phase) (limit now : Nat) : Prop where
  exact : ∀ expiry, policy.leaseUntil? (policy.timeout phase) now = some expiry ↔
    expiry = now + limit + 30 ∧ now + limit + 30 < Width.bound64
  /-- A claimed record stays leased for the limit of the call and the margin. -/
  covers : ∀ record call duration leaseUntil,
    policy.decide phase record now = .attempt call duration leaseUntil →
      ∀ claimedAt later, (record.claim leaseUntil claimedAt).isLeased later = true ↔
        later < now + limit + 30
  /-- A record whose turn it is breaks the batch off if its lease would have no end. -/
  breaks : ∀ record call, record.isLeased now = false → policy.isExhausted record = false →
    record.backoffElapsed policy.backoff now = true → RetryPolicy.call? phase record = some call →
      (policy.decide phase record now = .overflow ↔ Width.bound64 ≤ now + limit + 30)

theorem RetryPolicy.leases_of_holdSeconds {policy : RetryPolicy} {phase : Phase} {limit now : Nat}
    (holds : policy.holdSeconds (policy.timeout phase) = limit + 30) :
    policy.Leases phase limit now := by
  have lease : policy.leaseUntil? (policy.timeout phase) now =
      if now + limit + 30 < Width.bound64 then some (now + limit + 30) else none := by
    unfold leaseUntil?
    dsimp only
    rw [holds, ← Nat.add_assoc]
    have sameBound : now + limit + 30 ≤ Redemption.maxTime ↔ now + limit + 30 < Width.bound64 :=
      Nat.lt_succ_iff.symm
    split
    · next inTime => rw [if_pos (sameBound.mp inTime)]
    · next late => rw [if_neg (mt sameBound.mpr late)]
  refine ⟨fun expiry => ?_, ?_, ?_⟩
  · rw [lease, Option.ite_none_right_eq_some, Option.some.injEq, and_comm, eq_comm]
  · intro record call duration leaseUntil decided claimedAt later
    rcases attempts_of_decide decided with ⟨-, -, -, rfl, rfl⟩
    rw [holds, ← Nat.add_assoc]
    exact decide_eq_true_iff
  · intro record call unleased retriesLeft waited isCall
    unfold decide
    rw [unleased, retriesLeft, waited, isCall]
    dsimp only
    rw [lease]
    by_cases inTime : now + limit + 30 < Width.bound64
    · simp [inTime]
    · simp [inTime, Nat.le_of_not_lt inTime]

namespace Configuration

/-- Whatever the variables say, a limit fits 64 bits, and a lease is exact if
it fits them too; there is none otherwise. -/
theorem leases_exact {lookup : String → Option String} {configuration : Configuration}
    (loaded : load lookup = .ok configuration) (phase : Phase) (now : Nat) :
    ∃ limit, number lookup phase.limitVariable Width.bound64 phase.defaultLimit = .ok limit ∧
      limit < Width.bound64 ∧ configuration.policy.Leases phase limit now := by
  have limited := limit_of_load loaded phase
  refine ⟨configuration.limit phase, limited, lt_of_number ?_ limited,
    RetryPolicy.leases_of_holdSeconds (holdSeconds_policy phase)⟩
  cases phase <;> decide

/-- The last second is the end of the longest lease that there is. -/
theorem leases_exact_to_the_last_second :
    let lookup := fun name =>
      if name = "RELAYER_SUBMIT_TIMEOUT_SECS" then some " +18446744072009551585" else none
    ∃ configuration, load lookup = .ok configuration ∧
      configuration.policy.leaseUntil? (configuration.policy.timeout .settlement) 1700000000 =
        some Redemption.maxTime := by
  intro lookup
  have happened : (load lookup).toOption.isSome = true ∧
      (number lookup Phase.settlement.limitVariable Width.bound64 120).toOption =
        some 18446744072009551585 := by
    decide +kernel
  cases loaded : load lookup with
  | error error => simp [loaded, Except.toOption] at happened
  | ok configuration =>
      rcases leases_exact loaded .settlement 1700000000 with ⟨limit, limited, -, leases⟩
      have read := happened.2
      rw [show number _ _ _ 120 = _ from limited] at read
      cases read
      exact ⟨configuration, rfl, (leases.exact _).mpr (by decide)⟩

/-- A limit that is accepted, at a moment at which no lease can end in time. The
batch that comes upon a new record breaks off. -/
theorem accepted_limit_without_lease :
    let lookup := fun name =>
      if name = "RELAYER_FETCH_TIMEOUT_SECS" then some "18446744073709551615" else none
    let record := Redemption.observed "BaseSepolia"
      { walletPubKeyHash := "0x00", mainUtxo := ⟨"0x01", 1, 2⟩, redeemerOutputScript := "0x76",
        amount := 5, sourceTxHash := "0xa1" } 1700000000 1700000000
    ∃ configuration, load lookup = .ok configuration ∧
      (¬ ∃ expiry,
        configuration.policy.leaseUntil? configuration.policy.fetchTimeout 1700000000 =
            some expiry ∧
          (1700000000 + 18446744073709551615 + 30) ≤ expiry) ∧
      configuration.policy.decide .attestation record 1700000000 = .overflow := by
  intro lookup record
  have happened : (load lookup).toOption.map (fun configuration =>
      (configuration.policy.leaseUntil? configuration.policy.fetchTimeout 1700000000,
        configuration.policy.decide .attestation record 1700000000)) =
      some (none, .overflow) := by
    decide +kernel
  cases loaded : load lookup with
  | error error => simp [loaded, Except.toOption] at happened
  | ok configuration =>
      rw [loaded] at happened
      rcases Prod.mk.inj (Option.some.inj happened) with ⟨noLease, breaksOff⟩
      refine ⟨configuration, rfl, ?_, breaksOff⟩
      rintro ⟨expiry, leased, -⟩
      rw [noLease] at leased
      cases leased

end Configuration

end RedemptionRelay

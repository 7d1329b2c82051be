import RedemptionRelay.Proofs.Fleet.Coherence
import RedemptionRelay.Proofs.Redemption.Consistency

/-! # What is stored hangs together

Every stored record is consistent: the first one is, and every write is a change
of a consistent record. So a batch that settles never comes upon a record
without its payload.
-/

namespace RedemptionRelay

theorem Redemption.Begun.consistent {accepted : String → Event → Prop} {record : Redemption}
    (begun : record.Begun accepted) : record.Consistent := by
  rcases begun with ⟨chain, event, now, logged, -, rfl⟩
  exact Redemption.consistent_observed chain event now logged

theorem Redemption.Precedes.consistent {earlier later : Redemption}
    (precedes : earlier.Precedes later) (consistent : earlier.Consistent) : later.Consistent := by
  rcases precedes with ⟨alive, _, _, _, _, changed, rfl⟩
  exact (consistent.of_apply alive changed).withVersion _

theorem Mandate.Found.call?_ne_none {mandate : Mandate} {outlook : Outlook} {record : Redemption}
    (found : mandate.Found outlook record) (consistent : record.Consistent) :
    RetryPolicy.call? mandate.phase record ≠ none := by
  rcases mandate with ⟨phase, policy, chain⟩
  cases phase with
  | attestation => exact Option.some_ne_none _
  | settlement =>
      rcases consistent.attested found.status with ⟨present, -⟩
      rcases Option.isSome_iff_exists.mp present with ⟨payload, payloadThere⟩
      simp [RetryPolicy.call?, payloadThere]

namespace Fleet

variable {σ : Type} [Store σ] [LawfulStore σ] {origin : String → Option Redemption}
  {fleet : Fleet σ}

theorem Coherent.consistent_of_known (coherent : fleet.Coherent origin)
    (before : ∀ id record, origin id = some record → record.Consistent) {id : String}
    {record : Redemption} (known : record ∈ fleet.trail origin id) : record.Consistent := by
  refine (coherent.linked id).induction _ _ (fun _ _ precedes => precedes.consistent) ?_ _ known
  intro nonempty
  cases first : origin id with
  | some record => simpa [trail, first] using before id record first
  | none =>
      have isFirst : (fleet.trail origin id).head nonempty ∈ (fleet.versions id).head? := by
        rw [Option.mem_def, ← List.head?_eq_some_head, trail, first]
        rfl
      exact (coherent.begun id first _ isFirst).consistent

/-- Every stored record is consistent, and no batch gives a record up for the
lack of a payload. -/
structure Consistent (fleet : Fleet σ) : Prop where
  stored : ∀ id record, LawfulStore.record? fleet.store id = some record → record.Consistent
  payload : ∀ member ∈ fleet.members, ∀ batch record queue now, member.job = .batch batch →
    batch.stage = .admitting record queue →
      batch.policy.decide batch.phase record now ≠ .abandon missingPayloadMessage

theorem consistency_preserved {store : σ} {clock : Nat} (sound : LawfulStore.Sound store)
    (vacant : ∀ id, LawfulStore.record? store id = none)
    (run : Run Free (initial store clock) fleet) : fleet.Consistent := by
  have coherent := run.coherent sound
  have noneBefore : ∀ id record, LawfulStore.record? store id = some record →
      record.Consistent := by
    intro id record found
    rw [vacant] at found
    cases found
  constructor
  · intro id record current
    exact coherent.consistent_of_known noneBefore (coherent.known_of_current current)
  · intro member inFleet batch record queue now isBatch stage decided
    rcases List.mem_iff_getElem?.mp inFleet with ⟨index, there⟩
    have traced := coherent.traced index member there
    rw [isBatch] at traced
    change batch.stage.Traced batch.mandate _ at traced
    rw [stage] at traced
    have found := traced record List.mem_cons_self
    exact found.call?_ne_none (coherent.consistent_of_known noneBefore found.known)
      (RetryPolicy.call?_eq_none_of_decide decided)

/-- The attestation of a request is in the store, and a batch that is to settle
it decides next. -/
theorem consistency_preserved_before_settlement :
    ∃ fleet : Fleet MemoryStore, fleet.Consistent ∧
      (MemoryStore.find? fleet.store "0xa1").map (·.status) = some .fetched ∧
      fleet.members.map (·.job.isAdmitting) = [false, false, true] := by
  let moves : List Move :=
    Sample.arrival ++ [.launchBatch .attestation {} none] ++ Sample.claim 1 ++ [.act 1 .call] ++
      Sample.conclusion 1 Sample.attests ++
      [.launchBatch .settlement {} none, .act 2 .proceed, .act 2 .proceed]
  have happened : ((initial ({} : MemoryStore) 0).follow? Free moves).map (fun fleet =>
      ((MemoryStore.find? fleet.store "0xa1").map (·.status),
        fleet.members.map (·.job.isAdmitting))) =
        some (some .fetched, [false, false, true]) := by
    decide +kernel
  rcases Option.map_eq_some_iff.mp happened with ⟨fleet, followed, seen⟩
  rcases Prod.mk.inj seen with ⟨status, admitting⟩
  have run : Run Free (initial ({} : MemoryStore) 0) fleet := .of_follow? .rest followed
  exact ⟨fleet, consistency_preserved trivial (fun _ => rfl) run, status, admitting⟩

end Fleet

end RedemptionRelay

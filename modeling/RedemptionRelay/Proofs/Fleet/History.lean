import RedemptionRelay.Proofs.Fleet.Coherence

/-! # The history of a record

However the steps of the workers alternate, whichever store operations fail and
whoever stops, what the store has held under one identifier is the history of a
single record to which one change after the other has been applied.
-/

namespace RedemptionRelay

namespace Fleet

variable {σ : Type} [Store σ] [LawfulStore σ] {origin : String → Option Redemption}
  {fleet : Fleet σ} {id : String} {record : Redemption}

/-- The states that were stored under an identifier are one record's history. -/
structure Linear (fleet : Fleet σ) (id : String) : Prop where
  current : LawfulStore.record? fleet.store id = (fleet.versions id).getLast?
  first : ∀ record ∈ (fleet.versions id).head?,
    record.version = 0 ∧ ∃ chain event now logged, fleet.Accepted chain event ∧
      record = Redemption.observed chain event now logged
  next : (fleet.versions id).IsChain fun earlier later =>
    later.version = earlier.version + 1 ∧
      ∃ mark now logged changed, earlier.apply mark now logged = .ok changed ∧
        later = { changed with version := earlier.version + 1 }
  forward : (fleet.versions id).Pairwise fun earlier later =>
    earlier.status.rank ≤ later.status.rank ∧ later.SameRequest earlier
  final : ∀ record ∈ fleet.versions id, record.status.isTerminal = true →
    LawfulStore.record? fleet.store id = some record

theorem history_linear {store : σ} {clock : Nat} (sound : LawfulStore.Sound store)
    (vacant : ∀ id, LawfulStore.record? store id = none)
    (run : Run Free (initial store clock) fleet) (id : String) : fleet.Linear id := by
  have coherent := run.coherent sound
  have noneBefore : fleet.trail (LawfulStore.record? store) id = fleet.versions id := by
    rw [trail, vacant]
    rfl
  have linked := coherent.linked id
  rw [noneBefore] at linked
  refine ⟨noneBefore ▸ coherent.current id, ?_, linked.imp ?_, ?_, ?_⟩
  · intro first isFirst
    rcases coherent.begun id (vacant id) first isFirst with
      ⟨chain, event, now, logged, accepted, rfl⟩
    exact ⟨rfl, chain, event, now, logged, accepted, rfl⟩
  · intro earlier later precedes
    exact ⟨precedes.version, precedes.2⟩
  · exact (Redemption.pairwise_before linked).imp fun before => ⟨before.rank, before.request⟩
  · intro record written ended
    exact coherent.current_of_ended (noneBefore ▸ written) ended

/-- A batch stores the attestation, while another one, which has read the same
state, finds its claim refused. -/
theorem history_linear_of_two_batches :
    ∃ fleet : Fleet MemoryStore, fleet.Linear "0xa1" ∧
      (fleet.versions "0xa1").map (fun record => (record.version, record.status)) =
        [(0, .pending), (1, .pending), (2, .fetched)] := by
  let moves : List Move :=
    Sample.arrival ++
      [.launchBatch .attestation {} none, .launchBatch .attestation {} none] ++
      (List.replicate 5 [.act 1 .proceed, .act 2 .proceed]).flatten ++ [.act 1 .call] ++
      Sample.conclusion 1 Sample.attests
  have happened : ((initial ({} : MemoryStore) 0).follow? Free moves).map (fun fleet =>
      (fleet.versions "0xa1").map fun record => (record.version, record.status)) =
        some [(0, .pending), (1, .pending), (2, .fetched)] := by
    decide +kernel
  rcases Option.map_eq_some_iff.mp happened with ⟨fleet, followed, versions⟩
  have run : Run Free (initial ({} : MemoryStore) 0) fleet := .of_follow? .rest followed
  exact ⟨fleet, history_linear trivial (fun _ => rfl) run "0xa1", versions⟩

end Fleet

end RedemptionRelay

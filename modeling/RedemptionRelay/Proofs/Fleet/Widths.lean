import RedemptionRelay.Proofs.Fleet.Consistency

/-! # What a fleet leaves behind

Every write of a fleet fits the widths of its numbers. So the records in its
store are consistent and in range, whenever and however the fleet stops.
-/

namespace RedemptionRelay.Fleet

variable {σ : Type} [Store σ]

def InRange (fleet : Fleet σ) : Prop :=
  ∀ index record, fleet.Wrote index record → record.InRange

variable [LawfulStore σ] {origin : String → Option Redemption} {fleet : Fleet σ} {index : Nat}
  {member after : Member} {store : σ} {deeds : List Deed} {record : Redemption}

theorem Served.inRange {request : Request} {answer : request.Answer}
    (served : Served origin fleet index member request answer store deeds) (fits : request.Fits)
    (done : .stored record ∈ deeds) : record.InRange := by
  cases served with
  | created =>
      cases List.mem_singleton.mp done
      exact fits
  | updated =>
      cases List.mem_singleton.mp done
      exact fits
  | listed | stamped | taken | stale | announced => simp at done

theorem Coherent.inRange_of_acts (coherent : fleet.Coherent origin) {action : Action}
    (there : fleet.members[index]? = some member)
    (acts : fleet.Acts member action after store deeds) (done : .stored record ∈ deeds) :
    record.InRange := by
  cases acts with
  | proceeded _ answered fits serves =>
      exact (coherent.served_of_answer? there answered fits serves).inRange fits done
  | failed _ _ fails => exact absurd done (quiet_of_failure? fails record)
  | called | heard | unheard | halted => simp at done

theorem Coherent.inRange_step (coherent : fleet.Coherent origin) (inRange : fleet.InRange)
    {next : Fleet σ} {move : Move} (step : fleet.step? move = some next) : next.InRange := by
  cases steps_of_step? step with
  | passed | batchLaunched | intakeLaunched => exact inRange
  | acted there acts =>
      intro other record wrote
      rcases wrote_replaced_iff.mp wrote with before | ⟨-, done⟩
      · exact inRange other record before
      · exact coherent.inRange_of_acts there acts done

theorem Run.inRange {allowed : Fleet σ → Move → Prop} {clock : Nat}
    (sound : LawfulStore.Sound store) (run : Run allowed (initial store clock) fleet) :
    fleet.InRange := by
  induction run with
  | rest => exact fun _ _ impossible => nomatch impossible
  | move move run _ step inRange => exact (run.coherent sound).inRange_step inRange step

/-- A store that was empty when the fleet began holds consistent records, all of
them in range. -/
theorem Run.stored {allowed : Fleet σ → Move → Prop} {clock : Nat}
    (sound : LawfulStore.Sound store) (vacant : ∀ id, LawfulStore.record? store id = none)
    (run : Run allowed (initial store clock) fleet) {id : String}
    (found : LawfulStore.record? fleet.store id = some record) :
    record.Consistent ∧ record.InRange := by
  have coherent := run.coherent sound
  have known := coherent.known_of_current found
  refine ⟨coherent.consistent_of_known (fun id record before => ?_) known, ?_⟩
  · rw [vacant] at before
    cases before
  · rw [trail, vacant] at known
    rcases wrote_of_mem_versions known with ⟨index, wrote⟩
    exact run.inRange sound index record wrote

/-- A fleet that found the store empty has brought it to this. -/
def Reachable (store : σ) : Prop :=
  ∃ (first : σ) (clock : Nat) (fleet : Fleet σ), LawfulStore.Sound first ∧
    (∀ id, LawfulStore.record? first id = none) ∧ Run Free (initial first clock) fleet ∧
    fleet.store = store

theorem Reachable.sound {store : σ} (reachable : Reachable store) : LawfulStore.Sound store := by
  rcases reachable with ⟨first, clock, fleet, sound, -, run, rfl⟩
  exact (run.coherent sound).sound

theorem Reachable.stored (reachable : Reachable store) {id : String}
    (found : LawfulStore.record? store id = some record) : record.Consistent ∧ record.InRange := by
  rcases reachable with ⟨first, clock, fleet, sound, vacant, run, rfl⟩
  exact run.stored sound vacant found

/-- Every record that the store holds has come about in some fleet. -/
def Populated (store : σ) : Prop :=
  ∀ id, ∀ record ∈ LawfulStore.record? store id,
    ∃ other : σ, Reachable other ∧ record ∈ LawfulStore.record? other record.id

theorem Reachable.populated {store : σ} (reachable : Reachable store) : Populated store := by
  intro id record found
  rw [LawfulStore.id_of_record? reachable.sound found]
  exact ⟨store, reachable, found⟩

theorem Populated.stored {store : σ} (populated : Populated store) {id : String}
    (found : LawfulStore.record? store id = some record) : record.Consistent ∧ record.InRange := by
  rcases populated id record found with ⟨other, reachable, there⟩
  exact reachable.stored there

theorem reachable_of_moves {store : MemoryStore} (moves : List Move)
    (happened : ((initial ({} : MemoryStore) 0).follow? Free moves).map (·.store.records) =
      some store.records) : Reachable store := by
  rcases Option.map_eq_some_iff.mp happened with ⟨fleet, followed, sameRecords⟩
  have sameStore : fleet.store = store := by
    revert sameRecords
    rcases fleet.store with ⟨records, distinct⟩
    rcases store with ⟨others, othersDistinct⟩
    rintro ⟨⟩
    rfl
  exact ⟨{}, 0, fleet, trivial, fun _ => rfl, .of_follow? .rest followed, sameStore⟩

end RedemptionRelay.Fleet

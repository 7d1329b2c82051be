import RedemptionRelay.Proofs.Redemption.Consistency

/-! # The times on a record

A change reads the clock once for its dates and once more for the entry that it
adds to the trail. A change that comes after all that the record tells of leaves
its dates in the order of the lifecycle, and its trail in the order of time.
-/

namespace RedemptionRelay

def Dates.times (dates : Dates) : List Nat :=
  dates.createdAt :: (dates.attestationFetchedAt.toList ++
    (dates.settlementSubmittedAt.toList ++ (dates.completedAt.toList ++ [dates.lastActivityAt])))

theorem Dates.lastActivityAt_mem_times (dates : Dates) : dates.lastActivityAt ∈ dates.times := by
  simp [times]

namespace Redemption

/-- What the record tells of has happened in this order, and by this time. -/
structure Timely (clock : Nat) (record : Redemption) : Prop where
  ordered : record.dates.times.Pairwise (· ≤ ·)
  settled : record.dates.settlementSubmittedAt = record.dates.completedAt
  past : ∀ time ∈ record.dates.times, time ≤ clock
  logged : record.logs.Pairwise fun earlier later => earlier.time ≤ later.time
  within : ∀ entry ∈ record.logs, record.dates.createdAt ≤ entry.time ∧ entry.time ≤ clock

/-- What a change notes of its time: it replaces the last dates, and adds to the
end of the trail if it adds to it. -/
structure Stamps (now logged : Nat) (record next : Redemption) : Prop where
  times : ∃ kept count, kept.Sublist record.dates.times ∧
    next.dates.times = kept ++ List.replicate count now
  settled : record.dates.settlementSubmittedAt = record.dates.completedAt →
    next.dates.settlementSubmittedAt = next.dates.completedAt
  logs : ∃ message, next.logs.Sublist (record.logs ++ [⟨logged, message⟩])

variable {record next : Redemption} {mark : Mark} {now logged clock later : Nat}

theorem logs_log (message : String) :
    (record.log logged message).logs.Sublist (record.logs ++ [⟨logged, message⟩]) :=
  List.drop_sublist _ _

theorem times_touch : ∃ kept count, kept.Sublist record.dates.times ∧
    (record.touch now).dates.times = kept ++ List.replicate count now := by
  refine ⟨record.dates.createdAt :: (record.dates.attestationFetchedAt.toList ++
    (record.dates.settlementSubmittedAt.toList ++ record.dates.completedAt.toList)), 1, ?_, ?_⟩
  · simp [Dates.times]
  · simp [Dates.times, touch]

theorem stamps_of_apply (consistent : record.Consistent)
    (alive : record.status.isTerminal = false)
    (changed : record.apply mark now logged = .ok next) : Stamps now logged record next := by
  rcases consistent.unsettled alive with ⟨-, unsubmitted, uncompleted⟩
  cases mark with
  | claim | release =>
      cases changed
      exact ⟨times_touch, fun same => same, "", List.sublist_append_left _ _⟩
  | fetchFailed | submitFailed | failed =>
      rcases become_bind_eq_ok.mp changed with ⟨-, rfl⟩
      exact ⟨times_touch, fun same => same, _, logs_log _⟩
  | fetched payload =>
      rcases become_bind_eq_ok.mp changed with ⟨-, rfl⟩
      refine ⟨⟨[record.dates.createdAt], 2, ?_, ?_⟩, fun same => same, _, logs_log _⟩
      · exact List.singleton_sublist.mpr List.mem_cons_self
      · simp [Dates.times, moved, touch, log, unsubmitted, uncompleted, List.replicate]
  | completed settlement =>
      rcases become_bind_eq_ok.mp changed with ⟨-, rfl⟩
      refine ⟨⟨record.dates.createdAt :: record.dates.attestationFetchedAt.toList, 3, ?_, ?_⟩,
        fun _ => rfl, _, logs_log _⟩
      · exact (List.sublist_append_left _ _).cons_cons _
      · simp [Dates.times, moved, touch, log, List.replicate]

namespace Timely

theorem mono (timely : record.Timely clock) (inTime : clock ≤ later) : record.Timely later :=
  { timely with
    past := fun time among => Nat.le_trans (timely.past time among) inTime
    within := fun entry among =>
      (timely.within entry among).imp_right fun before => Nat.le_trans before inTime }

theorem active (timely : record.Timely clock) : record.dates.lastActivityAt ≤ clock :=
  timely.past _ record.dates.lastActivityAt_mem_times

theorem withVersion (timely : record.Timely clock) (version : Nat) :
    { record with version := version }.Timely clock :=
  { timely with }

theorem of_apply (timely : record.Timely now) (inTime : now ≤ logged)
    (consistent : record.Consistent) (alive : record.status.isTerminal = false)
    (changed : record.apply mark now logged = .ok next) : next.Timely logged := by
  have stamps := stamps_of_apply consistent alive changed
  have sameCreation := (sameRequest_of_apply changed).createdAt
  rcases stamps.times with ⟨kept, count, keptOf, times⟩
  rcases stamps.logs with ⟨message, logs⟩
  have keptPast : ∀ time ∈ kept, time ≤ now := fun time among =>
    timely.past time (keptOf.subset among)
  have logsWithin : ∀ entry ∈ record.logs ++ [⟨logged, message⟩],
      record.dates.createdAt ≤ entry.time ∧ entry.time ≤ logged := by
    rw [List.forall_mem_append, List.forall_mem_singleton]
    refine ⟨fun entry among => ?_, ?_, Nat.le_refl _⟩
    · exact (timely.within entry among).imp_right fun before => Nat.le_trans before inTime
    · exact Nat.le_trans (timely.past _ List.mem_cons_self) inTime
  constructor
  · rw [times]
    refine List.pairwise_append.mpr ⟨timely.ordered.sublist keptOf, ?_, ?_⟩
    · exact List.pairwise_replicate.mpr (.inr (Nat.le_refl now))
    · intro time among last repeated
      exact List.eq_of_mem_replicate repeated ▸ keptPast time among
  · exact stamps.settled timely.settled
  · rw [times, List.forall_mem_append]
    refine ⟨fun time among => Nat.le_trans (keptPast time among) inTime, fun time repeated => ?_⟩
    exact List.eq_of_mem_replicate repeated ▸ inTime
  · refine List.Pairwise.sublist logs (List.pairwise_append.mpr ⟨timely.logged, ?_, ?_⟩)
    · exact List.pairwise_singleton _ _
    · intro entry among last here
      cases List.mem_singleton.mp here
      exact Nat.le_trans (timely.within entry among).2 inTime
  · rw [sameCreation]
    exact fun entry among => logsWithin entry (logs.subset among)

end Timely

theorem timely_observed (chain : String) (event : Event) (inTime : now ≤ logged) :
    (observed chain event now logged).Timely logged := by
  constructor <;> simp [observed, log, logCapacity, Dates.times, inTime]

end Redemption

end RedemptionRelay

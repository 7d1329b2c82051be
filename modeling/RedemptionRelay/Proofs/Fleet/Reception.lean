import RedemptionRelay.Proofs.Fleet.Coherence
import RedemptionRelay.Proofs.Fleet.Errands

/-! # What becomes of an event

A worker that takes an event in writes at most one record, which is the one made
from the event, and it writes that only where nothing is stored yet. A worker
that has written none leaves no trace in the store.
-/

namespace RedemptionRelay

namespace Intake

def isBarren : Intake → Bool
  | .announcing _ | .finished (.ok (.created _)) => false
  | _ => true

def Tells (listener : Listener) (raw : RawEvent) (isStored : String → Prop) : Intake → Prop
  | .announcing record =>
      ∃ event, listener.request raw = .ok event ∧ event.sourceTxHash = record.id
  | .finished (.ok (.created id)) =>
      ∃ event, listener.request raw = .ok event ∧ event.sourceTxHash = id
  | .finished (.ok (.duplicate id)) =>
      (∃ event, listener.request raw = .ok event ∧ event.sourceTxHash = id) ∧ isStored id
  | .finished (.ok (.skipped reason)) => listener.request raw = .error reason
  | .finished (.error _) => ∃ event, listener.request raw = .ok event
  | _ => True

theorem Tells.mono {listener : Listener} {raw : RawEvent} {isStored isStoredThen : String → Prop}
    {intake : Intake} (tells : intake.Tells listener raw isStored)
    (kept : ∀ id, isStored id → isStoredThen id) : intake.Tells listener raw isStoredThen := by
  rcases intake with _ | _ | _ | _ | (_ | (_ | _ | _))
  case finished.ok.duplicate id => exact ⟨tells.1, kept id tells.2⟩
  all_goals exact tells

theorem isBarren_start (listener : Listener) (raw : RawEvent) :
    (start listener raw).isBarren = true := by
  unfold start
  cases listener.request raw <;> rfl

theorem tells_start (listener : Listener) (raw : RawEvent) (isStored : String → Prop) :
    (start listener raw).Tells listener raw isStored := by
  unfold start
  cases requested : listener.request raw with
  | ok event => trivial
  | error reason => exact requested

end Intake

def Job.isBarren : Job → Bool
  | .intake work => work.isBarren
  | .batch _ => false

namespace Fleet

variable {σ : Type} [Store σ] [LawfulStore σ]

def Holds (fleet : Fleet σ) (id : String) : Prop :=
  (LawfulStore.record? fleet.store id).isSome = true

/-- The moves of a worker that takes an event in: from one stage to the next, the
store after it, and what has been done. -/
inductive Receiving (fleet : Fleet σ) : Action → Intake → Intake → σ → List Deed → Prop where
  | rested {action : Action} {work : Intake} : Receiving fleet action work work fleet.store []
  | stamped {chain : String} {event : Event} :
      Receiving fleet .proceed (.stamping chain event) (.logging chain event fleet.seconds)
        fleet.store []
  | logged {chain : String} {event : Event} {now : Nat} :
      Receiving fleet .proceed (.logging chain event now)
        (.creating (Redemption.observed chain event now fleet.seconds)) fleet.store []
  | created {record : Redemption} {store : σ}
      (vacant : LawfulStore.record? fleet.store record.id = none)
      (lands : fleet.Lands store record) :
      Receiving fleet .proceed (.creating record) (.announcing record) store [.stored record]
  | taken {record : Redemption} (holds : fleet.Holds record.id) :
      Receiving fleet .proceed (.creating record) (.finished (.ok (.duplicate record.id)))
        fleet.store []
  | failed {record : Redemption} {error : StoreError} :
      Receiving fleet (.fail error) (.creating record) (.finished (.error error)) fleet.store
        [.refused record error]
  | announced {record : Redemption} :
      Receiving fleet .proceed (.announcing record) (.finished (.ok (.created record.id)))
        fleet.store [.announced (.observed record)]

variable {origin : String → Option Redemption} {fleet next : Fleet σ} {index other : Nat}
  {member after : Member} {action : Action} {store : σ} {deeds : List Deed} {work later : Intake}
  {record : Redemption} {listener : Listener} {raw : RawEvent} {id : String}

theorem holds_of_taken (sound : LawfulStore.Sound fleet.store) (fits : record.InRange)
    (serves : fleet.answer? (.create record) = some (.ok .alreadyExists, store, deeds)) :
    fleet.Holds record.id := by
  unfold Holds
  cases stored : LawfulStore.record? fleet.store record.id with
  | some other => rfl
  | none =>
      rcases LawfulStore.create_of_vacant sound fits stored with ⟨after, creates, -⟩
      simp only [answer?, creates] at serves
      cases serves

theorem Coherent.receiving_of_acts (coherent : fleet.Coherent origin)
    (there : fleet.members[index]? = some member) (isIntake : member.job = .intake work)
    (acts : fleet.Acts member action after store deeds) :
    ∃ later, after.job = .intake later ∧ fleet.Receiving action work later store deeds := by
  have noAttempt : member.job.attempt? = none := by rw [isIntake]; rfl
  cases acts with
  | @proceeded request answer next store deeds _ answered fits serves =>
      have served := coherent.served_of_answer? there answered fits serves
      rw [Member.job_goOn]
      rw [isIntake] at answered
      cases answered with
      | intake answered =>
          refine ⟨_, rfl, ?_⟩
          cases answered with
          | stamped => cases served; exact .stamped
          | logged => cases served; exact .logged
          | created => cases served with
            | created _ vacant lands => exact .created vacant lands
          | duplicate =>
              have holds := holds_of_taken coherent.sound fits serves
              cases served
              exact .taken holds
          | uncreated => cases served
          | announced => cases served; exact .announced
  | @failed error request answer next deeds _ answered fails =>
      rw [isIntake] at answered
      cases answered with
      | intake answered =>
          refine ⟨_, rfl, ?_⟩
          cases answered <;> cases fails
          exact .failed
  | called _ _ attempts => rw [noAttempt] at attempts; cases attempts
  | heard _ _ attempts => rw [noAttempt] at attempts; cases attempts
  | unheard | halted => exact ⟨work, isIntake, .rested⟩

theorem Coherent.receiving_of_after (coherent : fleet.Coherent origin)
    (there : fleet.members[index]? = some member)
    (acts : fleet.Acts member action after store deeds) (isIntake : after.job = .intake later) :
    ∃ work, member.job = .intake work ∧ fleet.Receiving action work later store deeds := by
  have same := acts.isIntake
  rw [isIntake] at same
  cases job : member.job with
  | batch work =>
      rw [job] at same
      cases same
  | intake work =>
      rcases coherent.receiving_of_acts there job acts with ⟨later', isLater, receiving⟩
      cases isLater.symm.trans isIntake
      exact ⟨work, rfl, receiving⟩

theorem Receiving.of_isBarren (receiving : fleet.Receiving action work later store deeds)
    (barren : later.isBarren = true) :
    work.isBarren = true ∧ store = fleet.store ∧ ∀ record, .stored record ∉ deeds := by
  cases receiving with
  | rested => exact ⟨barren, rfl, by simp⟩
  | stamped | logged | taken | failed => exact ⟨rfl, rfl, by simp⟩
  | created | announced => cases barren

theorem Coherent.barren_of_acts (coherent : fleet.Coherent origin)
    (there : fleet.members[index]? = some member)
    (acts : fleet.Acts member action after store deeds) (barren : after.job.isBarren = true) :
    member.job.isBarren = true ∧ store = fleet.store ∧ ∀ record, .stored record ∉ deeds := by
  cases afterJob : after.job with
  | batch work =>
      rw [afterJob] at barren
      cases barren
  | intake later =>
      rcases coherent.receiving_of_after there acts afterJob with ⟨work, job, receiving⟩
      rw [afterJob] at barren
      rw [job]
      exact receiving.of_isBarren barren

theorem Coherent.holds_of_acts (coherent : fleet.Coherent origin)
    (there : fleet.members[index]? = some member)
    (acts : fleet.Acts member action after store deeds) (holds : fleet.Holds id) :
    (fleet.replaced index after store deeds).Holds id := by
  have landed {record : Redemption} (lands : fleet.Lands store record) :
      (LawfulStore.record? store id).isSome = true := by
    rw [lands.view]
    split
    · rfl
    · exact holds
  cases coherent.writes_of_acts there acts with
  | nothing _ same => exact same ▸ holds
  | begun _ _ lands => exact landed lands
  | changed _ _ _ lands => exact landed lands

theorem Coherent.version_of_batch (coherent : fleet.Coherent origin) {work : Batch}
    (there : fleet.members[index]? = some member) (isBatch : member.job = .batch work)
    (acts : fleet.Acts member action after store deeds) (written : .stored record ∈ deeds) :
    record.version ≠ 0 := by
  cases acts with
  | @proceeded request answer next store deeds _ answered fits serves =>
      cases coherent.served_of_answer? there answered fits serves with
      | created =>
          rw [isBatch] at answered
          cases answered with
          | batch answered => cases answered
      | updated =>
          cases List.mem_singleton.mp written
          exact Nat.succ_ne_zero _
      | listed | stamped | taken | stale | announced => simp at written
  | failed _ _ fails => exact absurd written (quiet_of_failure? fails record)
  | called | heard | unheard | halted => simp at written

/-! ## Every event is accounted for -/

/-- How far a worker has got with its event, and what it has written. -/
structure Receives (fleet : Fleet σ) (index : Nat) (listener : Listener) (raw : RawEvent)
    (work : Intake) : Prop where
  reports : work.Reports listener raw
  tells : work.Tells listener raw fleet.Holds
  barren : work.isBarren = true → ∀ record, ¬ fleet.Wrote index record
  fertile : work.isBarren = false → ∃ event now logged, listener.request raw = .ok event ∧
    ∀ record, fleet.Wrote index record ↔
      record = Redemption.observed raw.chain event now logged
  /-- Only a store that fails makes an event fail. -/
  failed : ∀ error, work = .finished (.error error) →
    ∃ record, ⟨index, .refused record error⟩ ∈ fleet.history

structure Received (fleet : Fleet σ) : Prop where
  intakes : ∀ index (member : Member) work, fleet.members[index]? = some member →
    member.job = .intake work →
      ∃ listener raw, fleet.Handles index listener raw ∧ fleet.Receives index listener raw work
  batches : ∀ index (member : Member) work, fleet.members[index]? = some member →
    member.job = .batch work → ∀ record, fleet.Wrote index record → record.version ≠ 0
  enrolled : ∀ index record, fleet.Wrote index record → index < fleet.members.length

theorem Receives.keep (receives : fleet.Receives index listener raw work)
    (grows : fleet.Grows next) (kept : ∀ id, fleet.Holds id → next.Holds id)
    (same : ∀ record, next.Wrote index record ↔ fleet.Wrote index record) :
    next.Receives index listener raw work where
  reports := receives.reports
  tells := receives.tells.mono kept
  barren barren record wrote := receives.barren barren record ((same record).mp wrote)
  fertile fertile := by
    rcases receives.fertile fertile with ⟨event, now, logged, requested, wrote⟩
    exact ⟨event, now, logged, requested, fun record => (same record).trans (wrote record)⟩
  failed error isError :=
    (receives.failed error isError).imp fun _ refused => grows.history.subset refused

theorem Receives.resume_barren (receives : fleet.Receives index listener raw work)
    (wasBarren : work.isBarren = true) (barren : later.isBarren = true)
    (quiet : ∀ record, .stored record ∉ deeds) (reports : later.Reports listener raw)
    (tells : later.Tells listener raw (fleet.replaced index after store deeds).Holds)
    (failed : ∀ error, later = .finished (.error error) → ∃ record, .refused record error ∈ deeds) :
    (fleet.replaced index after store deeds).Receives index listener raw later where
  reports := reports
  tells := tells
  barren _ record wrote := by
    rcases wrote_replaced_iff.mp wrote with before | ⟨-, now⟩
    · exact receives.barren wasBarren record before
    · exact quiet record now
  fertile fertile := by
    rw [barren] at fertile
    cases fertile
  failed error isError :=
    (failed error isError).imp fun _ refused =>
      List.mem_append_right _ (List.mem_map_of_mem refused)

theorem Receives.resume (receives : fleet.Receives index listener raw work)
    (grows : fleet.Grows (fleet.replaced index after store deeds))
    (kept : ∀ id, fleet.Holds id → (fleet.replaced index after store deeds).Holds id)
    (receiving : fleet.Receiving action work later store deeds) :
    (fleet.replaced index after store deeds).Receives index listener raw later := by
  cases receiving with
  | rested =>
      exact receives.keep grows kept fun record => by rw [wrote_replaced_iff]; simp
  | stamped =>
      exact receives.resume_barren rfl rfl (by simp) receives.reports trivial nofun
  | logged =>
      rcases receives.reports with ⟨rfl, requested⟩
      exact receives.resume_barren rfl rfl (by simp) ⟨_, _, _, requested, rfl⟩ trivial nofun
  | taken holds =>
      rcases receives.reports with ⟨event, now, logged, requested, rfl⟩
      exact receives.resume_barren rfl rfl (by simp) trivial ⟨⟨event, requested, rfl⟩, kept _ holds⟩
        nofun
  | failed =>
      rcases receives.reports with ⟨event, now, logged, requested, rfl⟩
      refine receives.resume_barren rfl rfl (by simp) trivial ⟨event, requested⟩ ?_
      rintro _ ⟨⟩
      exact ⟨_, List.mem_singleton_self _⟩
  | created vacant lands =>
      rcases receives.reports with ⟨event, now, logged, requested, rfl⟩
      refine ⟨trivial, ⟨event, requested, rfl⟩, nofun,
        fun _ => ⟨event, now, logged, requested, ?_⟩, nofun⟩
      intro record
      rw [wrote_replaced_iff, List.mem_singleton, Deed.stored.injEq]
      exact ⟨fun written => written.elim (fun before => absurd before (receives.barren rfl record))
        And.right, fun same => .inr ⟨rfl, same⟩⟩
  | announced =>
      rcases receives.fertile rfl with ⟨event, now, logged, requested, wrote⟩
      refine ⟨trivial, receives.tells, nofun, fun _ => ⟨event, now, logged, requested, ?_⟩, nofun⟩
      intro record
      rw [wrote_replaced_iff, ← wrote]
      simp

theorem Received.acted (received : fleet.Received) (coherent : fleet.Coherent origin)
    (there : fleet.members[index]? = some member)
    (acts : fleet.Acts member action after store deeds) :
    (fleet.replaced index after store deeds).Received := by
  have grows : fleet.Grows (fleet.replaced index after store deeds) :=
    grows_of_steps (.acted there acts)
  have kept (id : String) (holds : fleet.Holds id) :
      (fleet.replaced index after store deeds).Holds id := coherent.holds_of_acts there acts holds
  have otherwise {other : Nat} (different : other ≠ index) (record : Redemption) :
      (fleet.replaced index after store deeds).Wrote other record ↔ fleet.Wrote other record := by
    rw [wrote_replaced_iff]
    exact or_iff_left fun written => different written.1
  refine ⟨?_, ?_, ?_⟩
  · intro other member' later found isIntake
    rcases getElem?_replaced there found with ⟨rfl, rfl⟩ | ⟨different, before⟩
    · rcases coherent.receiving_of_after there acts isIntake with ⟨work, job, receiving⟩
      rcases received.intakes _ _ _ there job with ⟨listener, raw, handles, receives⟩
      exact ⟨listener, raw, handles.grow grows, receives.resume grows kept receiving⟩
    · rcases received.intakes _ _ _ before isIntake with ⟨listener, raw, handles, receives⟩
      exact ⟨listener, raw, handles.grow grows, receives.keep grows kept (otherwise different)⟩
  · intro other member' work found isBatch record wrote
    rcases getElem?_replaced there found with ⟨rfl, rfl⟩ | ⟨different, before⟩
    · cases job : member.job with
      | intake work =>
          have same := acts.isIntake
          rw [job, isBatch] at same
          cases same
      | batch work =>
          rcases wrote_replaced_iff.mp wrote with before | ⟨-, now⟩
          · exact received.batches _ _ _ there job record before
          · exact coherent.version_of_batch there job acts now
    · exact received.batches _ _ _ before isBatch record ((otherwise different record).mp wrote)
  · intro other record wrote
    rw [show (fleet.replaced index after store deeds).members.length = fleet.members.length from
      List.length_set]
    rcases wrote_replaced_iff.mp wrote with before | ⟨rfl, -⟩
    · exact received.enrolled other record before
    · exact (List.getElem?_eq_some_iff.mp there).1

theorem Received.joined (received : fleet.Received) {job : Job}
    (grows : fleet.Grows next) (sameStore : next.store = fleet.store)
    (sameHistory : next.history = fleet.history)
    (members : next.members = (fleet.joined job).members)
    (handled : ∀ work, job = .intake work → ∃ listener raw,
      next.Handles fleet.members.length listener raw ∧ work = Intake.start listener raw) :
    next.Received := by
  have same (index : Nat) (record : Redemption) :
      next.Wrote index record ↔ fleet.Wrote index record := by
    rw [Wrote, sameHistory, Wrote]
  have kept (id : String) (holds : fleet.Holds id) : next.Holds id := by
    rw [Holds, sameStore]
    exact holds
  have nothing (record : Redemption) : ¬ next.Wrote fleet.members.length record := fun wrote =>
    Nat.lt_irrefl _ (received.enrolled _ record ((same _ _).mp wrote))
  have found {index : Nat} {member : Member} (there : next.members[index]? = some member) :
      fleet.members[index]? = some member ∨
        index = fleet.members.length ∧ member = { job := job } := by
    rw [members] at there
    by_cases before : fleet.members[index]? = some member
    · exact .inl before
    · exact .inr ⟨last_of_joined there before, (getElem?_joined there).resolve_right before⟩
  refine ⟨?_, ?_, ?_⟩
  · intro index member work there isIntake
    rcases found there with before | ⟨rfl, rfl⟩
    · rcases received.intakes _ _ _ before isIntake with ⟨listener, raw, handles, receives⟩
      exact ⟨listener, raw, handles.grow grows, receives.keep grows kept (same index)⟩
    · rcases handled work isIntake with ⟨listener, raw, handles, rfl⟩
      refine ⟨listener, raw, handles, Intake.reports_start, Intake.tells_start _ _ _,
        fun _ => nothing, fun fertile => ?_, fun error isError => ?_⟩
      · rw [Intake.isBarren_start] at fertile
        cases fertile
      · unfold Intake.start at isError
        split at isError <;> cases isError
  · intro index member work there isBatch record wrote
    rcases found there with before | ⟨rfl, rfl⟩
    · exact received.batches _ _ _ before isBatch record ((same index record).mp wrote)
    · exact absurd wrote (nothing record)
  · intro index record wrote
    have more : (fleet.joined job).members.length = fleet.members.length + 1 := List.length_append
    rw [members, more]
    exact Nat.lt_add_right 1 (received.enrolled index record ((same index record).mp wrote))

theorem Received.step {move : Move} (received : fleet.Received)
    (coherent : fleet.Coherent origin) (staffed : fleet.Staffed) (steps : fleet.Steps move next) :
    next.Received := by
  have grows := grows_of_steps steps
  cases steps with
  | passed =>
      refine ⟨fun index member work there isIntake => ?_, received.batches, received.enrolled⟩
      rcases received.intakes _ _ _ there isIntake with ⟨listener, raw, handles, receives⟩
      exact ⟨listener, raw, handles.grow grows, receives.keep grows (fun _ => id) fun _ => Iff.rfl⟩
  | batchLaunched => exact received.joined grows rfl rfl rfl fun _ impossible => nomatch impossible
  | @intakeLaunched listener raw =>
      refine received.joined grows rfl rfl rfl ?_
      rintro work ⟨⟩
      exact ⟨listener, raw, handles_last staffed.one rfl, rfl⟩
  | acted there acts => exact received.acted coherent there acts

theorem received_initial (store : σ) (clock : Nat) : (initial store clock).Received where
  intakes _ _ _ impossible := nomatch impossible
  batches _ _ _ impossible := nomatch impossible
  enrolled _ _ impossible := absurd impossible List.not_mem_nil

theorem Run.received {allowed : Fleet σ → Move → Prop} {clock : Nat}
    (sound : LawfulStore.Sound store) (run : Run allowed (initial store clock) fleet) :
    fleet.Received := by
  induction run with
  | rest => exact received_initial store clock
  | move move run _ step received =>
      exact received.step (run.coherent sound) run.staffed (steps_of_step? step)

end Fleet

end RedemptionRelay

import RedemptionRelay.Proofs.Fleet.Coherence

/-! # Leases protect

From its claim on until the commit a worker counts on the state of the record
that it has written. As long as the lease on that state runs, nobody else
changes the record: whoever else takes it up admits it while no lease is
running, and then the state has been replaced, or the lease has ended.
-/

namespace RedemptionRelay

/-- What names a stored state of a record. -/
def Redemption.edition (record : Redemption) : String × Nat :=
  (record.id, record.version)

theorem Redemption.edition_of_apply {record next : Redemption} {mark : Mark} {now logged : Nat}
    (changed : record.apply mark now logged = .ok next) : next.edition = record.edition :=
  Prod.ext (sameRequest_of_apply changed).id (version_of_apply changed)

theorem Redemption.isLeased_of_le {record : Redemption} {earlier later : Nat}
    (leased : record.isLeased later = true) (ordered : earlier ≤ later) :
    record.isLeased earlier = true := by
  unfold isLeased at leased ⊢
  cases lease : record.leaseExpiresAt with
  | none => rw [lease] at leased; cases leased
  | some expiry =>
      rw [lease] at leased
      exact decide_eq_true (Nat.lt_of_le_of_lt ordered (of_decide_eq_true leased))

/-! ## The edition at hand -/

/-- The edition that is to be replaced by what comes of the attempt, from the
claim on, or of the decision to give the record up. -/
def Stage.edition? : Stage → Option (String × Nat)
  | .calling claimed _ _ => some claimed.edition
  | .marking record _ _ _ => some record.edition
  | .logging record _ _ _ _ => some record.edition
  | .committing next _ _ => some next.edition
  | _ => none

theorem Stage.edition?_eq_none {stage : Stage} (free : stage.isBusy = false) :
    stage.edition? = none := by
  cases stage <;> first | rfl | cases free

namespace Batch

variable {batch : Batch}

/-- How a batch comes to have an edition at hand. -/
inductive Carries (batch : Batch) (edition : String × Nat) :
    (request : Request) → request.Answer → Prop where
  | claimed {claimed : Redemption} {expected version : Nat}
      (same : (claimed.id, version) = edition) :
      Carries batch edition (.update claimed expected) (.ok version)
  | kept {request : Request} {answer : request.Answer}
      (silent : request.written? answer = none) (before : batch.stage.edition? = some edition) :
      Carries batch edition request answer
  | abandoned {record : Redemption} {queue : List Redemption} {now : Nat} {error : String}
      (stage : batch.stage = .admitting record queue)
      (decided : batch.policy.decide batch.phase record now = .abandon error)
      (same : record.edition = edition) : Carries batch edition .readClock now

theorem carries_of_answered {request : Request} {answer : request.Answer} {next : Batch}
    {edition : String × Nat} (answered : batch.Answered request answer next)
    (carries : next.stage.edition? = some edition) : batch.Carries edition request answer := by
  rcases rests_or_works answered with rests | ⟨stage, works, rfl⟩
  · rw [Stage.edition?_eq_none rests.free] at carries
    cases carries
  · cases works with
    | abandoned stage decided => exact .abandoned stage decided (Option.some.inj carries)
    | admitted | claimed => cases carries
    | leased => exact .claimed (Option.some.inj carries)
    | replied stage | marked stage => exact .kept rfl (by rw [stage]; exact carries)
    | logged stage changed =>
        refine .kept rfl ?_
        rw [stage, ← carries]
        exact congrArg some (Redemption.edition_of_apply changed).symm

end Batch

namespace Job

def edition? : Job → Option (String × Nat)
  | .batch work => work.stage.edition?
  | .intake _ => none

theorem carries_of_answered {job next : Job} {request : Request} {answer : request.Answer}
    {edition : String × Nat} (answered : job.Answered request answer next)
    (carries : next.edition? = some edition) :
    ∃ work : Batch, job = .batch work ∧ work.Carries edition request answer := by
  cases answered with
  | batch answered => exact ⟨_, rfl, Batch.carries_of_answered answered carries⟩
  | intake answered => cases carries

end Job

/-! ## The invariant -/

namespace Fleet

variable {σ : Type} [Store σ] [LawfulStore σ]

structure Protected (fleet : Fleet σ) : Prop where
  admitted : ∀ (index : Nat) (member : Member), fleet.members[index]? = some member →
    member.admittedAt ≤ fleet.clock
  held : ∀ (index : Nat) (member : Member) record, fleet.members[index]? = some member →
    fleet.Wrote index record → member.job.edition? = some record.edition →
      record.isLeased fleet.seconds = true →
        LawfulStore.record? fleet.store record.id = some record

variable {origin : String → Option Redemption} {fleet : Fleet σ} {index : Nat}
  {member after : Member} {store : σ} {deeds : List Deed} {record : Redemption} {action : Action}

theorem protected_initial (store : σ) (clock : Nat) : (initial store clock).Protected where
  admitted _ _ impossible := nomatch impossible
  held _ _ _ impossible := nomatch impossible

omit [Store σ] [LawfulStore σ] in
theorem seconds_mono {earlier later : Nat} (ordered : earlier ≤ later) :
    earlier / Duration.nanosecondsPerSecond ≤ later / Duration.nanosecondsPerSecond :=
  Nat.div_le_div_right ordered

theorem Coherent.same_of_edition (coherent : fleet.Coherent origin) {left right : Redemption}
    (leftKnown : left ∈ fleet.trail origin left.id)
    (rightKnown : right ∈ fleet.trail origin right.id) (same : left.edition = right.edition) :
    left = right := by
  rcases Prod.mk.inj same with ⟨sameId, sameVersion⟩
  exact coherent.eq_of_version (sameId ▸ leftKnown) rightKnown sameVersion

namespace Protected

theorem current_of_writes {other : Nat} (different : other ≠ index)
    (admitted : member.admittedAt ≤ fleet.clock) (coherent : fleet.Coherent origin)
    (writes : Writes origin fleet index member store deeds) (wrote : fleet.Wrote other record)
    (leased : record.isLeased fleet.seconds = true)
    (current : LawfulStore.record? fleet.store record.id = some record) :
    LawfulStore.record? store record.id = some record := by
  cases writes with
  | nothing _ same => exact same ▸ current
  | @begun first _ vacant lands =>
      rw [lands.view]
      split
      · next same => rw [same, vacant] at current; cases current
      · exact current
  | @changed base next precedes currentBase entitled lands =>
      rw [lands.view]
      split
      · next same =>
          rw [same, precedes.id, currentBase] at current
          cases Option.some.inj current
          rcases entitled with unleased | own
          · have stillLeased := Redemption.isLeased_of_le leased (seconds_mono admitted)
            exact absurd (stillLeased.symm.trans unleased) (by simp)
          · exact absurd (coherent.eq_of_wrote wrote own) different
      · exact current

theorem current_of_acts (protects : fleet.Protected) (coherent : fleet.Coherent origin)
    (there : fleet.members[index]? = some member)
    (acts : fleet.Acts member action after store deeds)
    (wrote : (fleet.replaced index after store deeds).Wrote index record)
    (atHand : after.job.edition? = some record.edition)
    (leased : record.isLeased fleet.seconds = true) :
    LawfulStore.record? store record.id = some record := by
  have coherentAfter := coherent.replaced there acts
  have before (quiet : ∀ record, .stored record ∉ deeds) : fleet.Wrote index record :=
    (wrote_replaced_iff.mp wrote).resolve_right fun now => quiet record now.2
  cases acts with
  | @proceeded request answer next store deeds _ answered fits serves =>
      rw [Member.job_goOn] at atHand
      have served := coherent.served_of_answer? there answered fits serves
      rcases Job.carries_of_answered answered atHand with ⟨work, isBatch, carries⟩
      cases carries with
      | claimed same =>
          cases served with
          | updated _ _ _ _ lands =>
              have sameRecord := coherentAfter.same_of_edition (mem_trail_of_wrote wrote)
                (mem_trail_of_wrote wrote_stored) same.symm
              rw [sameRecord, lands.view, if_pos rfl]
      | kept silent atHandBefore =>
          rcases served.silent silent with ⟨rfl, quiet⟩
          exact protects.held _ _ _ there (before quiet) (isBatch ▸ atHandBefore) leased
      | abandoned stage decided same =>
          cases served
          -- A record is only given up while no lease runs, so this one is not the leased one.
          have traced := coherent.traced _ _ there
          rw [isBatch] at traced
          change work.stage.Traced work.mandate _ at traced
          rw [stage] at traced
          have found := traced _ List.mem_cons_self
          cases coherent.same_of_edition found.known (mem_trail_of_wrote (before (by simp))) same
          have unleased := RetryPolicy.unleased_of_decide decided (by simp)
          exact absurd (leased.symm.trans unleased) (by simp)
  | @failed error request answer next deeds _ answered fails =>
      rcases Job.carries_of_answered answered atHand with ⟨work, isBatch, carries⟩
      cases carries with
      | claimed => cases fails
      | abandoned => cases fails
      | kept _ atHandBefore =>
          exact protects.held _ _ _ there (before (quiet_of_failure? fails))
            (isBatch ▸ atHandBefore) leased
  | called => exact protects.held _ _ _ there (before (by simp)) atHand leased
  | heard _ _ _ answered =>
      rcases Job.carries_of_answered answered atHand with ⟨work, isBatch, carries⟩
      cases carries with
      | kept _ atHandBefore =>
          exact protects.held _ _ _ there (before (by simp)) (isBatch ▸ atHandBefore) leased
  | unheard => exact protects.held _ _ _ there (before (by simp)) atHand leased
  | halted => exact protects.held _ _ _ there (before (by simp)) atHand leased

omit [LawfulStore σ] in
theorem admittedAt_le_of_acts (admitted : member.admittedAt ≤ fleet.clock)
    (acts : fleet.Acts member action after store deeds) : after.admittedAt ≤ fleet.clock := by
  cases acts with
  | proceeded =>
      unfold Member.goOn
      split
      · exact Nat.le_refl _
      · exact admitted
  | failed | called | heard | unheard | halted => exact admitted

theorem joined (protects : fleet.Protected) (job : Job) (fresh : job.edition? = none) :
    (fleet.joined job).Protected where
  admitted index member found := by
    rcases getElem?_joined found with rfl | before
    · exact Nat.zero_le _
    · exact protects.admitted index member before
  held index member record found wrote atHand leased := by
    rcases getElem?_joined found with rfl | before
    · rw [fresh] at atHand
      cases atHand
    · exact protects.held index member record before wrote atHand leased

theorem replaced (protects : fleet.Protected) (coherent : fleet.Coherent origin)
    (there : fleet.members[index]? = some member)
    (acts : fleet.Acts member action after store deeds) :
    (fleet.replaced index after store deeds).Protected where
  admitted other member' found := by
    have admittedAfter := admittedAt_le_of_acts (protects.admitted _ _ there) acts
    rcases getElem?_replaced there found with ⟨rfl, rfl⟩ | ⟨-, before⟩
    · exact admittedAfter
    · exact protects.admitted other member' before
  held other member' record found wrote atHand leased := by
    rcases getElem?_replaced there found with ⟨rfl, rfl⟩ | ⟨different, before⟩
    · exact protects.current_of_acts coherent there acts wrote atHand leased
    · have wroteBefore : fleet.Wrote other record :=
        (wrote_replaced_iff.mp wrote).resolve_right fun now => different now.1
      exact current_of_writes different (protects.admitted _ _ there) coherent
        (coherent.writes_of_acts there acts) wroteBefore leased
        (protects.held other member' record before wroteBefore atHand leased)

theorem step {next : Fleet σ} {move : Move} (protects : fleet.Protected)
    (coherent : fleet.Coherent origin) (step : fleet.step? move = some next) :
    next.Protected := by
  cases steps_of_step? step with
  | passed =>
      have later := Nat.le_add_right fleet.clock
      constructor
      · intro index member found
        exact Nat.le_trans (protects.admitted index member found) (later _)
      · intro index member record found wrote atHand leased
        have leasedBefore := Redemption.isLeased_of_le leased (seconds_mono (later _))
        exact protects.held index member record found wrote atHand leasedBefore
  | @batchLaunched phase policy chain => exact protects.joined (.batch _) rfl
  | @intakeLaunched listener raw =>
      have toldProtects : (fleet.told listener raw).Protected := { protects with }
      exact toldProtects.joined (.intake _) rfl
  | acted there acts => exact protects.replaced coherent there acts

end Protected

theorem Run.protects {allowed : Fleet σ → Move → Prop} {clock : Nat}
    (sound : LawfulStore.Sound store) (run : Run allowed (initial store clock) fleet) :
    fleet.Protected := by
  induction run with
  | rest => exact protected_initial store clock
  | move move earlier _ step protects => exact protects.step (earlier.coherent sound) step

end Fleet

end RedemptionRelay

import RedemptionRelay.Proofs.Answers
import RedemptionRelay.Proofs.Fleet

/-! # What a move does to a fleet

One case for each kind of move, with all that made it possible.
-/

namespace RedemptionRelay

namespace Job

inductive Answered : Job → (request : Request) → request.Answer → Job → Prop where
  | batch {work next : Batch} {request : Request} {answer : request.Answer}
      (answered : work.Answered request answer next) :
      Answered (.batch work) request answer (.batch next)
  | intake {work next : Intake} {request : Request} {answer : request.Answer}
      (answered : work.Answered request answer next) :
      Answered (.intake work) request answer (.intake next)

theorem answered_of_next {job : Job} {request : Request} {resume : request.Answer → Job}
    (asks : job.next = .ask request resume) (answer : request.Answer) :
    job.Answered request answer (resume answer) := by
  cases job with
  | batch work =>
      cases next : work.next with
      | done result => rw [Job.next, next] at asks; cases asks
      | ask asked further =>
          rw [Job.next, next] at asks
          cases asks
          exact .batch (Batch.answered_of_next next answer)
  | intake work =>
      cases next : work.next with
      | done result => rw [Job.next, next] at asks; cases asks
      | ask asked further =>
          rw [Job.next, next] at asks
          cases asks
          exact .intake (Intake.answered_of_next next answer)

theorem calling_of_attempt? {job : Job} {claimed : Redemption} {attempt : Attempt}
    (attempts : job.attempt? = some (claimed, attempt)) :
    ∃ work queue, job = .batch work ∧ work.stage = .calling claimed attempt queue := by
  cases job with
  | intake work => cases attempts
  | batch work =>
      change work.stage.attempt? = some (claimed, attempt) at attempts
      cases stage : work.stage <;> rw [stage] at attempts <;> cases attempts
      exact ⟨work, _, rfl, stage⟩

theorem answered_hear {job : Job} {claimed : Redemption} {attempt : Attempt}
    (attempts : job.attempt? = some (claimed, attempt))
    (reply : (call : Call) → Option call.Reply) :
    job.Answered (.perform attempt.call attempt.limit) (reply attempt.call) (job.hear reply) := by
  cases job with
  | intake work => cases attempts
  | batch work =>
      rcases work with ⟨phase, policy, chain, summary, stage⟩
      cases stage <;> cases attempts
      exact .batch (.replied rfl)

end Job

theorem split_at_place {α : Type} {entries : List α} {place : Nat} {entry : α}
    (there : entries[place]? = some entry) :
    ∃ front back, front.length = place ∧ entries = front ++ entry :: back ∧
      ∀ other, entries.set place other = front ++ other :: back := by
  rcases List.getElem?_eq_some_iff.mp there with ⟨inside, rfl⟩
  have replaced (other : α) :
      entries.set place other = entries.take place ++ other :: entries.drop (place + 1) := by
    rw [List.set_eq_take_append_cons_drop, if_pos inside]
  refine ⟨entries.take place, entries.drop (place + 1), ?_, ?_, replaced⟩
  · exact List.length_take_of_le (Nat.le_of_lt inside)
  · rw [← replaced, List.set_getElem_self]

namespace Fleet

variable {σ : Type}

/-! ## Other workers -/

theorem getElem?_replaced {fleet : Fleet σ} {index other : Nat} {member after member' : Member}
    {store : σ} {deeds : List Deed} (there : fleet.members[index]? = some member)
    (found : (fleet.replaced index after store deeds).members[other]? = some member') :
    (other = index ∧ member' = after) ∨
      (other ≠ index ∧ fleet.members[other]? = some member') := by
  simp only [replaced, List.getElem?_set] at found
  by_cases same : index = other
  · subst same
    have inside : index < fleet.members.length := (List.getElem?_eq_some_iff.mp there).1
    simp only [if_true, inside] at found
    exact .inl ⟨rfl, (Option.some.inj found).symm⟩
  · rw [if_neg same] at found
    exact .inr ⟨fun equal => same equal.symm, found⟩

theorem getElem?_replaced_self {fleet : Fleet σ} {index : Nat} {member after : Member} {store : σ}
    {deeds : List Deed} (there : fleet.members[index]? = some member) :
    (fleet.replaced index after store deeds).members[index]? = some after :=
  List.getElem?_set_self (List.getElem?_eq_some_iff.mp there).1

theorem getElem?_joined {fleet : Fleet σ} {job : Job} {index : Nat} {member : Member}
    (found : (fleet.joined job).members[index]? = some member) :
    member = { job := job } ∨ fleet.members[index]? = some member := by
  simp only [joined, List.getElem?_append] at found
  split at found
  · exact .inr found
  · exact .inl (List.mem_singleton.mp (List.mem_of_getElem? found))

/-! ## Moves -/

variable [Store σ]

inductive Acts (fleet : Fleet σ) (member : Member) : Action → Member → σ → List Deed → Prop where
  | proceeded {request : Request} {answer : request.Answer} {next : Job} {store : σ}
      {deeds : List Deed} (running : member.isHalted = false)
      (answered : member.job.Answered request answer next) (fits : request.Fits)
      (serves : fleet.answer? request = some (answer, store, deeds)) :
      Acts fleet member .proceed (member.goOn fleet.clock next) store deeds
  | failed {error : StoreError} {request : Request} {answer : request.Answer} {next : Job}
      {deeds : List Deed} (running : member.isHalted = false)
      (answered : member.job.Answered request answer next)
      (fails : request.failure? error = some (answer, deeds)) :
      Acts fleet member (.fail error) { member with job := next } fleet.store deeds
  | called {claimed : Redemption} {attempt : Attempt} (running : member.isHalted = false)
      (idle : member.calledAt = none) (attempts : member.job.attempt? = some (claimed, attempt)) :
      Acts fleet member .call { member with calledAt := some fleet.clock } fleet.store
        [.called claimed.id attempt.call]
  | heard {reply : (call : Call) → Option call.Reply} {start : Nat} {claimed : Redemption}
      {attempt : Attempt} (running : member.isHalted = false)
      (calling : member.calledAt = some start)
      (attempts : member.job.attempt? = some (claimed, attempt))
      (answered : member.job.Answered (.perform attempt.call attempt.limit) (reply attempt.call)
        (member.job.hear reply)) :
      Acts fleet member (.hear reply)
        { member with
          job := member.job.hear reply
          calledAt := none
          spent := fleet.clock - start }
        fleet.store [.replied claimed.id attempt.call (reply attempt.call)]
  | unheard {reply : (call : Call) → Option call.Reply} (halted : member.isHalted = true) :
      Acts fleet member (.hear reply) { member with calledAt := none } fleet.store []
  | halted : Acts fleet member .halt { member with isHalted := true } fleet.store []

theorem acts_of_act? {fleet : Fleet σ} {member after : Member} {action : Action} {store : σ}
    {deeds : List Deed} (acted : fleet.act? member action = some (after, store, deeds)) :
    fleet.Acts member action after store deeds := by
  cases action with
  | proceed =>
      simp only [act?] at acted
      split at acted
      · next request resume asks =>
          split at acted
          · cases acted
          · next possible =>
              simp only [Bool.or_eq_true, Bool.not_eq_true', decide_eq_false_iff_not, not_or,
                Bool.not_eq_true, Decidable.not_not] at possible
              rcases Option.map_eq_some_iff.mp acted with ⟨⟨answer, store', deeds'⟩, serves, same⟩
              cases same
              exact .proceeded possible.1 (Job.answered_of_next asks answer) possible.2 serves
      · cases acted
  | fail error =>
      simp only [act?] at acted
      split at acted
      · next request resume asks =>
          split at acted
          · cases acted
          · next running =>
              rcases Option.map_eq_some_iff.mp acted with ⟨⟨answer, deeds'⟩, fails, same⟩
              cases same
              exact .failed (Bool.eq_false_iff.mpr running)
                (Job.answered_of_next asks answer) fails
      · cases acted
  | call =>
      simp only [act?] at acted
      split at acted
      · cases acted
      · next free =>
          simp only [Bool.or_eq_true, not_or, Bool.not_eq_true, Option.isSome_eq_false_iff,
            Option.isNone_iff_eq_none] at free
          rcases Option.map_eq_some_iff.mp acted with ⟨⟨claimed, attempt⟩, attempts, same⟩
          cases same
          exact .called free.1 free.2 attempts
  | hear reply =>
      simp only [act?] at acted
      split at acted
      · next start claimed attempt calling attempts =>
          split at acted
          · next halted =>
              cases acted
              exact .unheard halted
          · next running =>
              cases acted
              exact .heard (Bool.eq_false_iff.mpr running) calling attempts
                (Job.answered_hear attempts reply)
      · cases acted
  | halt =>
      cases acted
      exact .halted

inductive Steps (fleet : Fleet σ) : Move → Fleet σ → Prop where
  | passed {nanoseconds : Nat}
      (inTime : ∀ member ∈ fleet.members, member.mayWait (fleet.clock + nanoseconds) = true) :
      Steps fleet (.pass nanoseconds) { fleet with clock := fleet.clock + nanoseconds }
  | batchLaunched {phase : Phase} {policy : RetryPolicy} {chain : Option String} :
      Steps fleet (.launchBatch phase policy chain)
        (fleet.joined (.batch (Batch.start phase policy chain)))
  | intakeLaunched {listener : Listener} {raw : RawEvent} :
      Steps fleet (.launchIntake listener raw)
        ((fleet.told listener raw).joined (.intake (Intake.start listener raw)))
  | acted {index : Nat} {member after : Member} {action : Action} {store : σ} {deeds : List Deed}
      (there : fleet.members[index]? = some member)
      (acts : fleet.Acts member action after store deeds) :
      Steps fleet (.act index action) (fleet.replaced index after store deeds)

theorem steps_of_step? {fleet next : Fleet σ} {move : Move}
    (step : fleet.step? move = some next) : fleet.Steps move next := by
  cases move with
  | pass nanoseconds =>
      simp only [step?] at step
      split at step
      · next inTime =>
          cases step
          exact .passed (List.all_eq_true.mp inTime)
      · cases step
  | launchBatch phase policy chain =>
      cases step
      exact .batchLaunched
  | launchIntake listener raw =>
      cases step
      exact .intakeLaunched
  | act index action =>
      simp only [step?] at step
      split at step
      · next member there =>
          rcases Option.map_eq_some_iff.mp step with ⟨⟨after, store, deeds⟩, acted, same⟩
          cases same
          exact .acted there (acts_of_act? acted)
      · cases step

theorem follow?_cons {fleet : Fleet σ} {move : Move} {moves : List Move} :
    fleet.follow? Free (move :: moves) =
      (fleet.step? move).bind fun next => next.follow? Free moves := by
  rw [follow?, if_pos (show fleet.Free move from trivial)]
  cases fleet.step? move <;> rfl

theorem follow?_free {allowed : Fleet σ → Move → Prop}
    [∀ fleet move, Decidable (allowed fleet move)] {fleet last : Fleet σ} {moves : List Move}
    (followed : fleet.follow? allowed moves = some last) :
    fleet.follow? Free moves = some last := by
  induction moves generalizing fleet with
  | nil => exact followed
  | cons move later induction =>
      rw [follow?] at followed
      rw [follow?_cons]
      split at followed
      · cases stepped : fleet.step? move with
        | none =>
            rw [stepped] at followed
            cases followed
        | some next =>
            rw [stepped] at followed
            exact induction followed
      · cases followed

/-! ## Beginnings -/

theorem length_of_answer? {fleet : Fleet σ} {store : σ} {deeds : List Deed} {request : Request}
    {answer : request.Answer} (serves : fleet.answer? request = some (answer, store, deeds)) :
    deeds.length ≤ 1 := by
  cases request <;> simp only [answer?] at serves
  case listRecords | readClock | announce =>
    cases serves
    simp
  case create | update =>
    split at serves <;> cases serves <;> simp
  case perform => cases serves

theorem length_of_acts {fleet : Fleet σ} {member after : Member} {action : Action} {store : σ}
    {deeds : List Deed} (acts : fleet.Acts member action after store deeds) :
    deeds.length ≤ 1 := by
  cases acts with
  | proceeded _ _ _ serves => exact length_of_answer? serves
  | @failed error request _ _ _ _ _ fails => cases request <;> cases fails <;> simp
  | called | heard | unheard | halted => simp

theorem Run.exists_earlier {allowed : Fleet σ → Move → Prop} {start fleet : Fleet σ}
    (fresh : start.history = []) (run : Run allowed start fleet) :
    ∀ earlier, earlier <+: fleet.history →
      ∃ middle, Run allowed start middle ∧ middle.history = earlier := by
  induction run with
  | rest =>
      intro earlier begins
      rw [fresh, List.prefix_nil] at begins
      exact ⟨start, .rest, fresh.trans begins.symm⟩
  | @move fleet next move run admissible step before =>
      intro earlier begins
      have nextRun : Run allowed start next := .move move run admissible step
      have lengthens : ∃ new : List HistoryEntry, next.history = fleet.history ++ new ∧
          new.length ≤ 1 := by
        cases steps_of_step? step with
        | passed | batchLaunched | intakeLaunched => exact ⟨[], (List.append_nil _).symm, by simp⟩
        | acted there acts => exact ⟨_, rfl, by simpa using length_of_acts acts⟩
      rcases lengthens with ⟨new, history, atMostOne⟩
      rcases new with _ | ⟨entry, _ | ⟨other, others⟩⟩
      · rw [history, List.append_nil] at begins
        exact before earlier begins
      · rw [history] at begins
        rcases List.prefix_concat_iff.mp begins with whole | shorter
        · exact ⟨next, nextRun, history.trans whole.symm⟩
        · exact before earlier shorter
      · simp at atMostOne

end Fleet

end RedemptionRelay

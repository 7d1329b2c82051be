import RedemptionRelay.Proofs.Fleet.Errands
import RedemptionRelay.Proofs.Fleet.Exclusion

/-! # Calls carry what was requested and what was attested

Each call can be traced back through the history to the deeds that account for
what it carries: the record of an event was stored for the first time, and, if
the call settles it, a worker was told its attestation and stored that.
-/

namespace RedemptionRelay

theorem Redemption.payload_of_apply {record next : Redemption} {mark : Mark} {now logged : Nat}
    (changed : record.apply mark now logged = .ok next) :
    next.payload = record.payload ∨
      ∃ payload, mark = .fetched payload ∧ next.payload = some payload := by
  cases mark <;>
    simp only [apply, markFetched, markFetchFailed, markCompleted, markSubmitFailed, markFailed,
      become_bind_eq_ok, Except.ok.injEq] at changed
  case claim => exact .inl (changed ▸ rfl)
  case release => exact .inl (changed ▸ rfl)
  case fetched payload => exact .inr ⟨payload, rfl, changed.2 ▸ rfl⟩
  all_goals exact .inl (changed.2 ▸ rfl)

/-! ## Places in a history -/

def versionsIn (history : List HistoryEntry) (id : String) : List Redemption :=
  history.filterMap (HistoryEntry.version? id)

theorem id_of_mem_versionsIn {history : List HistoryEntry} {id : String} {record : Redemption}
    (among : record ∈ versionsIn history id) : record.id = id := by
  rcases List.mem_filterMap.mp among with ⟨entry, -, isVersion⟩
  exact (HistoryEntry.stored_of_version? isVersion).2

def lastDeed? (history : List HistoryEntry) (worker : Nat) : Option Deed :=
  (history.filter (·.member == worker)).getLast?.map (·.deed)

/-- The attestation of a redemption, as it is told in reply to a call. -/
def Deed.attestation (id : String) (payload : Bytes) : Deed :=
  .replied id (.fetch id) (some (.ok (.available payload)))

namespace Fleet

variable {σ : Type}

/-- Here the record of this event is stored for the first time, by the worker who
handles the event. -/
def CreatesAt (fleet : Fleet σ) (place : Nat) (id : String) (event : Event) : Prop :=
  ∃ worker listener raw now logged,
    fleet.Handles worker listener raw ∧ listener.request raw = .ok event ∧
      event.sourceTxHash = id ∧
      fleet.history[place]? =
        some ⟨worker, .stored (Redemption.observed raw.chain event now logged)⟩ ∧
      versionsIn (fleet.history.take place) id = []

/-- Here the payload is stored on the last state of the record, by a worker who
has been told it just before. -/
def AttestsAt (fleet : Fleet σ) (place : Nat) (id : String) (payload : Bytes) : Prop :=
  ∃ worker base changed now logged,
    fleet.history[place]? = some ⟨worker, .stored { changed with version := base.version + 1 }⟩ ∧
      (versionsIn (fleet.history.take place) id).getLast? = some base ∧
      base.apply (.fetched payload) now logged = .ok changed ∧
      lastDeed? (fleet.history.take place) worker = some (.attestation id payload)

/-- What is fetched is the attestation of the redemption itself; what is
submitted are its event and its payload, which have been stored before. -/
def Warrants (fleet : Fleet σ) (place : Nat) (id : String) : Call → Prop
  | .fetch sourceTxHash => sourceTxHash = id
  | .submit payload event =>
      ∃ creation attestation, creation < attestation ∧ attestation < place ∧
        fleet.CreatesAt creation id event ∧ fleet.AttestsAt attestation id payload

variable {fleet next : Fleet σ} {place : Nat} {id : String} {event : Event} {payload : Bytes}

theorem CreatesAt.grow (creates : fleet.CreatesAt place id event) (grows : fleet.Grows next) :
    next.CreatesAt place id event := by
  rcases creates with ⟨worker, listener, raw, now, logged, handles, requested, named, stored, first⟩
  rcases place_of_grown grows.history stored with ⟨stored', sameBefore⟩
  exact ⟨worker, listener, raw, now, logged, handles.grow grows, requested, named, stored',
    sameBefore ▸ first⟩

theorem AttestsAt.grow (attests : fleet.AttestsAt place id payload) (grows : fleet.Grows next) :
    next.AttestsAt place id payload := by
  rcases attests with ⟨worker, base, changed, now, logged, stored, current, applied, told⟩
  rcases place_of_grown grows.history stored with ⟨stored', sameBefore⟩
  exact ⟨worker, base, changed, now, logged, stored', sameBefore ▸ current, applied,
    sameBefore ▸ told⟩

theorem Warrants.grow {call : Call} (warrants : fleet.Warrants place id call)
    (grows : fleet.Grows next) : next.Warrants place id call := by
  cases call with
  | fetch sourceTxHash => exact warrants
  | submit payload event =>
      rcases warrants with ⟨creation, attestation, earlier, before, creates, attests⟩
      exact ⟨creation, attestation, earlier, before, creates.grow grows, attests.grow grows⟩

theorem CreatesAt.lt_attestsAt {creation attestation : Nat}
    (creates : fleet.CreatesAt creation id event)
    (attests : fleet.AttestsAt attestation id payload) : creation < attestation := by
  rcases creates with ⟨_, _, _, _, _, _, _, _, _, first⟩
  rcases attests with ⟨_, base, _, _, _, _, current, _⟩
  by_contra notEarlier
  have among : base ∈ versionsIn (fleet.history.take attestation) id := List.mem_of_getLast? current
  have sub : fleet.history.take attestation <+: fleet.history.take creation :=
    List.take_prefix_take_left (Nat.le_of_not_lt notEarlier)
  have impossible := (sub.filterMap (HistoryEntry.version? id)).subset among
  rw [show (fleet.history.take creation).filterMap _ = _ from first] at impossible
  cases impossible

theorem AttestsAt.lt_length (attests : fleet.AttestsAt place id payload) :
    place < fleet.history.length := by
  rcases attests with ⟨_, _, _, _, _, stored, _⟩
  exact (List.getElem?_eq_some_iff.mp stored).1

end Fleet

/-! ## What a worker has been told

A payload that a worker is about to store has been told it just before, or has
been stored already. -/

/-- `attested` is what has been stored and `told` what the worker has just been told. -/
def Stage.Hears (attested told : String → Bytes → Prop) : Stage → Prop
  | .marking record mark _ _ | .logging record mark _ _ _ =>
      ∀ payload, mark = .fetched payload → told record.id payload
  | .committing next _ _ =>
      ∀ payload, next.payload = some payload → attested next.id payload ∨ told next.id payload
  | _ => True

def Job.Hears (attested told : String → Bytes → Prop) : Job → Prop
  | .batch work => work.stage.Hears attested told
  | .intake _ => True

section Hears

variable {attested told wider : String → Bytes → Prop}

theorem Stage.Hears.widen {stage : Stage} (hears : stage.Hears attested told)
    (widens : ∀ {id payload}, attested id payload → wider id payload) :
    stage.Hears wider told := by
  cases stage with
  | committing next outcome queue =>
      exact fun payload there => (hears payload there).imp_left widens
  | _ => exact hears

theorem Job.Hears.widen {job : Job} (hears : job.Hears attested told)
    (widens : ∀ {id payload}, attested id payload → wider id payload) :
    job.Hears wider told := by
  cases job with
  | batch work => exact Stage.Hears.widen hears widens
  | intake work => trivial

theorem Stage.hears_of_free {stage : Stage} (free : stage.isBusy = false) :
    stage.Hears attested told := by
  cases stage <;> trivial

end Hears

theorem RetryPolicy.reply_of_fetched {policy : RetryPolicy} {claimed : Redemption} {started : Nat}
    {call : Call} {reply : Option call.Reply} {payload : Bytes} (id : String)
    (concluded : (policy.conclude claimed started call reply).1 = .fetched payload) :
    ∃ sourceTxHash, call = .fetch sourceTxHash ∧
      Deed.replied id call reply =
        .replied id (.fetch sourceTxHash) (some (.ok (.available payload))) := by
  cases call with
  | fetch sourceTxHash =>
      refine ⟨sourceTxHash, rfl, ?_⟩
      rcases reply with - | (error | (payload' | - | reason))
      · cases concluded
      · cases concluded
      · cases concluded
        rfl
      · simp only [conclude, concludeFetch] at concluded
        split at concluded <;> cases concluded
      · cases concluded
  | submit payload' event =>
      rcases reply with - | (error | settlement)
      · cases concluded
      · simp only [conclude, concludeSubmit] at concluded
        split at concluded <;> cases concluded
      · cases concluded

namespace Job

variable {job next : Job} {request : Request} {answer : request.Answer} {outlook : Outlook}
  {attested told toldThen : String → Bytes → Prop}

theorem creating_of_answered {record : Redemption} {answer : (Request.create record).Answer}
    (answered : job.Answered (.create record) answer next) : job = .intake (.creating record) := by
  cases answered with
  | batch answered => cases answered
  | intake answered => cases answered <;> rfl

def Recorded (outlook : Outlook) (attested : String → Bytes → Prop) : Prop :=
  ∀ record payload, outlook.known record → record.payload = some payload →
    attested record.id payload

theorem Hears.resume (hears : job.Hears attested told) (traced : job.Traced outlook)
    (recorded : Recorded outlook attested) (answered : job.Answered request answer next)
    (noCall : ∀ call limit, request ≠ .perform call limit)
    (stillTold : request = .readClock → ∀ {id payload}, told id payload → toldThen id payload) :
    next.Hears attested toldThen := by
  cases answered with
  | intake => trivial
  | @batch work next request answer answered =>
      rcases Batch.rests_or_works answered with rests | ⟨stage, works, rfl⟩
      · exact Stage.hears_of_free rests.free
      · change work.stage.Hears attested told at hears
        change work.stage.Traced work.mandate outlook at traced
        cases works with
        | abandoned stage decided => exact fun payload impossible => nomatch impossible
        | admitted | claimed | leased => trivial
        | replied => exact absurd rfl (noCall _ _)
        | marked stage =>
            rw [stage] at hears
            exact fun payload same => stillTold rfl (hears payload same)
        | @logged record next mark outcome queue now logged stage changed =>
            rw [stage] at hears traced
            have sameId := (Redemption.sameRequest_of_apply changed).id
            intro payload there
            rw [sameId]
            rcases Redemption.payload_of_apply changed with kept | ⟨payload', isMark, same⟩
            · exact .inl (recorded record payload traced.1.found.known (kept ▸ there))
            · cases same.symm.trans there
              exact .inr (stillTold rfl (hears payload isMark))

theorem Hears.update {record : Redemption} {expected : Nat}
    {answer : (Request.update record expected).Answer} (hears : job.Hears attested told)
    (traced : job.Traced outlook) (recorded : Recorded outlook attested)
    (answered : job.Answered (.update record expected) answer next) {payload : Bytes}
    (there : record.payload = some payload) :
    attested record.id payload ∨ told record.id payload := by
  cases answered with
  | intake answered => cases answered
  | @batch work next request answer answered =>
      change work.stage.Hears attested told at hears
      change work.stage.Traced work.mandate outlook at traced
      have leasing {attempt : Attempt} {queue : List Redemption}
          (stage : work.stage = .leasing record attempt queue) :
          attested record.id payload ∨ told record.id payload := by
        rw [stage] at traced
        rcases traced with ⟨⟨base, _, _, admits, rfl⟩, -⟩
        exact .inl (recorded base payload admits.found.known there)
      have committing {outcome : Outcome} {queue : List Redemption}
          (stage : work.stage = .committing record outcome queue) :
          attested record.id payload ∨ told record.id payload := by
        rw [stage] at hears
        exact hears payload there
      cases answered with
      | leased stage | unleased stage => exact leasing stage
      | committed stage | uncommitted stage => exact committing stage

theorem Traced.call_of_attempt? {claimed : Redemption} {attempt : Attempt}
    (traced : job.Traced outlook) (attempts : job.attempt? = some (claimed, attempt)) :
    outlook.known claimed ∧ ∃ phase, RetryPolicy.call? phase claimed = some attempt.call := by
  rcases traced.holds_of_attempt? attempts with ⟨mandate, -, -, holds⟩
  rcases holds.claim with ⟨record, leaseUntil, now, admits, rfl⟩
  exact ⟨holds.found.known, mandate.phase, (RetryPolicy.attempts_of_decide admits.decided).isCall⟩

theorem hears_hear {claimed : Redemption} {attempt : Attempt}
    {reply : (call : Call) → Option call.Reply} (attempts : job.attempt? = some (claimed, attempt))
    (tells : ∀ sourceTxHash payload, attempt.call = .fetch sourceTxHash →
      Deed.replied claimed.id attempt.call (reply attempt.call) =
        .replied claimed.id (.fetch sourceTxHash) (some (.ok (.available payload))) →
      told claimed.id payload) : (job.hear reply).Hears attested told := by
  rcases calling_of_attempt? attempts with ⟨work, queue, rfl, stage⟩
  rcases work with ⟨phase, policy, chain, summary, stage'⟩
  cases stage
  intro payload concluded
  rcases RetryPolicy.reply_of_fetched claimed.id concluded with ⟨sourceTxHash, isFetch, same⟩
  exact tells sourceTxHash payload isFetch same

end Job

/-! ## Every deed is accounted for -/

namespace Fleet

variable {σ : Type}

def Attested (fleet : Fleet σ) (id : String) (payload : Bytes) : Prop :=
  ∃ place, fleet.AttestsAt place id payload

def IsTold (fleet : Fleet σ) (worker : Nat) (id : String) (payload : Bytes) : Prop :=
  lastDeed? fleet.history worker = some (.attestation id payload)

structure Documented (fleet : Fleet σ) : Prop where
  created : ∀ id, ∀ record ∈ fleet.versions id, ∃ place, fleet.CreatesAt place id record.event
  attested : ∀ id, ∀ record ∈ fleet.versions id, ∀ payload, record.payload = some payload →
    fleet.Attested id payload
  hears : ∀ index (member : Member), fleet.members[index]? = some member →
    member.job.Hears fleet.Attested (fleet.IsTold index)
  warranted : ∀ place worker id call, fleet.history[place]? = some ⟨worker, .called id call⟩ →
    fleet.Warrants place id call

variable {fleet : Fleet σ} {index other : Nat} {member after : Member} {store : σ}
  {deeds : List Deed}

theorem lastDeed?_replaced_other (different : other ≠ index) :
    lastDeed? (fleet.replaced index after store deeds).history other =
      lastDeed? fleet.history other := by
  have others : (deeds.map fun deed => (⟨index, deed⟩ : HistoryEntry)).filter
      (·.member == other) = [] := by
    rw [List.filter_eq_nil_iff]
    rintro entry member
    rcases List.mem_map.mp member with ⟨deed, -, rfl⟩
    simpa using different.symm
  show Option.map _ ((fleet.history ++ _).filter _).getLast? = _
  rw [List.filter_append, others, List.append_nil]
  rfl

theorem lastDeed?_replaced_one (deed : Deed) :
    lastDeed? (fleet.replaced index after store [deed]).history index = some deed := by
  simp [lastDeed?, replaced]

theorem getElem?_history_replaced {place : Nat} {entry : HistoryEntry}
    (there : (fleet.replaced index after store deeds).history[place]? = some entry) :
    fleet.history[place]? = some entry ∨
      ∃ offset, place = fleet.history.length + offset ∧ deeds[offset]? = some entry.deed := by
  simp only [replaced, List.getElem?_append] at there
  split at there
  · exact .inl there
  · next after =>
      rw [List.getElem?_map, Option.map_eq_some_iff] at there
      rcases there with ⟨deed, done, rfl⟩
      exact .inr ⟨place - fleet.history.length, by omega, done⟩

theorem isTold_replaced_quiet : (fleet.replaced index after store []).IsTold = fleet.IsTold := by
  funext worker id payload
  simp [IsTold, replaced]

theorem mem_versions_replaced {record : Redemption} {id : String} :
    record ∈ (fleet.replaced index after store deeds).versions id ↔
      record ∈ fleet.versions id ∨ (.stored record ∈ deeds ∧ record.id = id) := by
  rw [versions_replaced, List.mem_append, List.mem_filterMap]
  refine or_congr_right ⟨?_, ?_⟩
  · rintro ⟨deed, done, isVersion⟩
    rcases HistoryEntry.stored_of_version? isVersion with ⟨isStored, sameId⟩
    cases isStored
    exact ⟨done, sameId⟩
  · rintro ⟨done, rfl⟩
    exact ⟨_, done, if_pos rfl⟩

variable [Store σ] [LawfulStore σ] {origin : String → Option Redemption} {action : Action}

omit [Store σ] [LawfulStore σ] in
theorem trail_of_fresh (fresh : ∀ id, origin id = none) (id : String) :
    fleet.trail origin id = fleet.versions id := by
  rw [trail, fresh]
  rfl

omit [Store σ] [LawfulStore σ] in
theorem Documented.recorded (documented : fleet.Documented) (fresh : ∀ id, origin id = none) :
    Job.Recorded (fleet.outlook origin index member) fleet.Attested := by
  intro record payload known there
  have written : record ∈ fleet.versions record.id := trail_of_fresh fresh record.id ▸ known
  exact documented.attested record.id record written payload there

omit [Store σ] [LawfulStore σ] in
theorem Documented.warrants (documented : fleet.Documented) {phase : Phase} {record : Redemption}
    {call : Call} (written : record ∈ fleet.versions record.id)
    (asks : RetryPolicy.call? phase record = some call) :
    fleet.Warrants fleet.history.length record.id call := by
  rcases documented.created record.id record written with ⟨creation, creates⟩
  cases phase with
  | attestation =>
      cases asks
      rcases creates with ⟨_, _, _, _, _, _, _, named, _⟩
      exact named
  | settlement =>
      rcases Option.map_eq_some_iff.mp asks with ⟨payload, isPayload, rfl⟩
      rcases documented.attested record.id record written payload isPayload with
        ⟨attestation, attests⟩
      exact ⟨creation, attestation, creates.lt_attestsAt attests, attests.lt_length, creates,
        attests⟩

theorem Coherent.attempt_of_called (coherent : fleet.Coherent origin)
    (there : fleet.members[index]? = some member)
    (acts : fleet.Acts member action after store deeds) {id : String} {call : Call}
    (called : .called id call ∈ deeds) :
    ∃ claimed attempt, member.job.attempt? = some (claimed, attempt) ∧
      deeds = [.called id call] ∧ id = claimed.id ∧ call = attempt.call := by
  cases acts with
  | proceeded _ answered fits serves =>
      cases coherent.served_of_answer? there answered fits serves <;> simp at called
  | @failed error request _ _ _ _ _ fails =>
      cases request <;> cases fails <;> simp at called
  | called _ _ attempts =>
      cases List.mem_singleton.mp called
      exact ⟨_, _, attempts, rfl, rfl, rfl⟩
  | heard | unheard | halted => simp at called

section Acts

variable (documented : fleet.Documented) (coherent : fleet.Coherent origin)
  (fresh : ∀ id, origin id = none) (staffed : fleet.Staffed)
  (there : fleet.members[index]? = some member)
  (acts : fleet.Acts member action after store deeds)
include documented coherent fresh there acts

theorem Documented.written {record : Redemption} (written : .stored record ∈ deeds) :
    deeds = [.stored record] ∧
      ((member.job = .intake (.creating record) ∧ fleet.versions record.id = []) ∨
        ∃ base, (fleet.versions record.id).getLast? = some base ∧ base.Precedes record ∧
          ∀ payload, record.payload = some payload →
            fleet.Attested record.id payload ∨ fleet.IsTold index record.id payload) := by
  have stored (id : String) :
      LawfulStore.record? fleet.store id = (fleet.versions id).getLast? :=
    trail_of_fresh fresh id ▸ coherent.current id
  cases acts with
  | @proceeded request answer next store deeds _ answered fits serves =>
      cases coherent.served_of_answer? there answered fits serves with
      | @created record' store begun vacant lands =>
          cases List.mem_singleton.mp written
          refine ⟨rfl, .inl ⟨?_, ?_⟩⟩
          · exact Job.creating_of_answered answered
          · rw [stored] at vacant
            exact List.getLast?_eq_none_iff.mp vacant
      | @updated base next expected store isBase precedes current entitled lands =>
          cases List.mem_singleton.mp written
          refine ⟨rfl, .inr ⟨base, ?_, precedes, ?_⟩⟩
          · rw [← stored, precedes.id]
            exact current
          · intro payload isPayload
            exact (documented.hears index member there).update (coherent.traced index member there)
              (documented.recorded fresh) answered isPayload
      | listed | stamped | taken | stale | announced => simp at written
  | failed _ _ fails => exact absurd written (quiet_of_failure? fails record)
  | called | heard | unheard | halted => simp at written

include staffed in
theorem Documented.created_replaced (id : String) (record : Redemption)
    (among : record ∈ (fleet.replaced index after store deeds).versions id) :
    ∃ place, (fleet.replaced index after store deeds).CreatesAt place id record.event := by
  have grows : fleet.Grows (fleet.replaced index after store deeds) :=
    grows_of_steps (.acted there acts)
  rcases mem_versions_replaced.mp among with before | ⟨now, rfl⟩
  · rcases documented.created id record before with ⟨place, creates⟩
    exact ⟨place, creates.grow grows⟩
  · rcases documented.written coherent fresh there acts now with
      ⟨rfl, ⟨isIntake, first⟩ | ⟨base, last, precedes, -⟩⟩
    · have reports := staffed.reports index member there
      rw [isIntake] at reports
      rcases reports rfl with ⟨listener, raw, handles, event, time, logged, requested, rfl⟩
      refine ⟨fleet.history.length, index, listener, raw, time, logged, handles.grow grows,
        requested, rfl, ?_, ?_⟩
      · exact List.getElem?_concat_length
      · show versionsIn ((fleet.history ++ _).take fleet.history.length) _ = []
        rw [List.take_left]
        exact first
    · rcases documented.created record.id base (List.mem_of_getLast? last) with ⟨place, creates⟩
      rw [precedes.before.request.event]
      exact ⟨place, creates.grow grows⟩

theorem Documented.attested_replaced (id : String) (record : Redemption)
    (among : record ∈ (fleet.replaced index after store deeds).versions id) (payload : Bytes)
    (isPayload : record.payload = some payload) :
    (fleet.replaced index after store deeds).Attested id payload := by
  have grows : fleet.Grows (fleet.replaced index after store deeds) :=
    grows_of_steps (.acted there acts)
  have kept {id : String} (attested : fleet.Attested id payload) :
      (fleet.replaced index after store deeds).Attested id payload :=
    attested.imp fun _ attests => attests.grow grows
  rcases mem_versions_replaced.mp among with before | ⟨now, rfl⟩
  · exact kept (documented.attested id record before payload isPayload)
  · rcases documented.written coherent fresh there acts now with
      ⟨rfl, ⟨isIntake, -⟩ | ⟨base, last, precedes, brings⟩⟩
    · have begun := coherent.traced index member there
      rw [isIntake] at begun
      rcases begun with ⟨_, _, _, _, -, rfl⟩
      cases isPayload
    · rcases brings payload isPayload with attested | told
      · exact kept attested
      · rcases precedes with ⟨alive, mark, time, logged, changed, applied, rfl⟩
        rcases Redemption.payload_of_apply applied with same | ⟨payload', rfl, same⟩
        · exact kept (documented.attested _ base (List.mem_of_getLast? last) payload
            (same ▸ isPayload))
        · cases same.symm.trans isPayload
          refine ⟨fleet.history.length, index, base, changed, time, logged, ?_, ?_, applied, ?_⟩
          · exact List.getElem?_concat_length
          · show (versionsIn ((fleet.history ++ _).take fleet.history.length) _).getLast? = _
            rw [List.take_left]
            exact last
          · show lastDeed? ((fleet.history ++ _).take fleet.history.length) _ = _
            rw [List.take_left]
            exact told

omit acts in
theorem Documented.warrants_attempt {claimed : Redemption} {attempt : Attempt}
    (attempts : member.job.attempt? = some (claimed, attempt)) :
    fleet.Warrants fleet.history.length claimed.id attempt.call := by
  rcases (coherent.traced index member there).call_of_attempt? attempts with ⟨known, phase, asks⟩
  exact documented.warrants (trail_of_fresh fresh claimed.id ▸ known) asks

theorem Documented.hears_acted :
    after.job.Hears fleet.Attested ((fleet.replaced index after store deeds).IsTold index) := by
  have hears := documented.hears index member there
  have traced := coherent.traced index member there
  have recorded : Job.Recorded (fleet.outlook origin index member) fleet.Attested :=
    documented.recorded fresh
  cases acts with
  | @proceeded request answer next store deeds _ answered fits serves =>
      rw [Member.job_goOn]
      refine hears.resume traced recorded answered ?_ ?_
      · rintro call limit rfl
        cases serves
      · rintro rfl id payload told
        cases serves
        rw [isTold_replaced_quiet]
        exact told
  | failed _ answered fails =>
      refine hears.resume traced recorded answered ?_ ?_
      · rintro call limit rfl
        cases fails
      · rintro rfl
        cases fails
  | called _ _ attempts =>
      rcases Job.calling_of_attempt? attempts with ⟨work, queue, isBatch, stage⟩
      show member.job.Hears _ _
      rw [isBatch]
      show work.stage.Hears _ _
      rw [stage]
      trivial
  | @heard reply start claimed attempt _ _ attempts =>
      refine Job.hears_hear attempts ?_
      intro sourceTxHash payload isFetch same
      have named : sourceTxHash = claimed.id := by
        have warrants := documented.warrants_attempt coherent fresh there attempts
        rw [isFetch] at warrants
        exact warrants
      show lastDeed? _ _ = _
      rw [lastDeed?_replaced_one, same, named]
      rfl
  | unheard | halted =>
      rw [isTold_replaced_quiet]
      exact hears

theorem Documented.warranted_replaced {place worker : Nat} {id : String} {call : Call}
    (called : (fleet.replaced index after store deeds).history[place]? =
      some ⟨worker, .called id call⟩) :
    (fleet.replaced index after store deeds).Warrants place id call := by
  have grows : fleet.Grows (fleet.replaced index after store deeds) :=
    grows_of_steps (.acted there acts)
  rcases getElem?_history_replaced called with before | ⟨offset, isNow, done⟩
  · exact (documented.warranted place worker id call before).grow grows
  · rcases coherent.attempt_of_called there acts (List.mem_of_getElem? done) with
      ⟨claimed, attempt, attempts, rfl, rfl, rfl⟩
    cases Nat.lt_one_iff.mp (List.getElem?_eq_some_iff.mp done).1
    rw [isNow]
    exact (documented.warrants_attempt coherent fresh there attempts).grow grows

end Acts

/-! ## Moves keep the documents -/

section Moves

variable {next : Fleet σ}

omit [Store σ] [LawfulStore σ] in
theorem documented_initial (store : σ) (clock : Nat) : (initial store clock).Documented where
  created _ _ impossible := absurd impossible List.not_mem_nil
  attested _ _ impossible := absurd impossible List.not_mem_nil
  hears _ _ impossible := nomatch impossible
  warranted _ _ _ _ impossible := nomatch impossible

omit [Store σ] [LawfulStore σ] in
theorem Attested.grow {id : String} {payload : Bytes} (attested : fleet.Attested id payload)
    (grows : fleet.Grows next) : next.Attested id payload :=
  attested.imp fun _ attests => attests.grow grows

omit [Store σ] [LawfulStore σ] in
theorem Documented.hears_grown (documented : fleet.Documented) (grows : fleet.Grows next)
    (there : fleet.members[other]? = some member)
    (sameLast : lastDeed? next.history other = lastDeed? fleet.history other) :
    member.job.Hears next.Attested (next.IsTold other) := by
  have sameTold : next.IsTold other = fleet.IsTold other := by
    funext id payload
    rw [IsTold, sameLast, IsTold]
  rw [sameTold]
  exact (documented.hears other member there).widen fun attested => attested.grow grows

omit [Store σ] [LawfulStore σ] in
theorem Documented.of_sameHistory (documented : fleet.Documented) (grows : fleet.Grows next)
    (same : next.history = fleet.history)
    (members : ∀ (other : Nat) (member : Member), next.members[other]? = some member →
      fleet.members[other]? = some member ∨ ∀ attested told, member.job.Hears attested told) :
    next.Documented where
  created id record among := by
    rw [versions, same] at among
    exact (documented.created id record among).imp fun _ creates => creates.grow grows
  attested id record among payload isPayload := by
    rw [versions, same] at among
    exact (documented.attested id record among payload isPayload).grow grows
  hears other member found := by
    rcases members other member found with before | isNew
    · exact documented.hears_grown grows before (by rw [same])
    · exact isNew _ _
  warranted place worker id call called := by
    rw [same] at called
    exact (documented.warranted place worker id call called).grow grows

theorem Documented.step {move : Move} (documented : fleet.Documented)
    (coherent : fleet.Coherent origin) (fresh : ∀ id, origin id = none) (staffed : fleet.Staffed)
    (steps : fleet.Steps move next) : next.Documented := by
  have grows := grows_of_steps steps
  cases steps with
  | passed => exact documented.of_sameHistory grows rfl fun _ _ => .inl
  | batchLaunched | intakeLaunched =>
      refine documented.of_sameHistory grows rfl fun other member found => ?_
      rcases getElem?_joined found with rfl | before
      · exact .inr fun _ _ => trivial
      · exact .inl before
  | @acted index member after action store deeds there acts =>
      refine ⟨documented.created_replaced coherent fresh staffed there acts,
        documented.attested_replaced coherent fresh there acts, ?_, fun _ _ _ _ =>
          documented.warranted_replaced coherent fresh there acts⟩
      intro other member' found
      rcases getElem?_replaced there found with ⟨rfl, rfl⟩ | ⟨different, before⟩
      · exact (documented.hears_acted coherent fresh there acts).widen fun attested =>
          attested.grow grows
      · exact documented.hears_grown grows before (lastDeed?_replaced_other different)

theorem Run.documented {allowed : Fleet σ → Move → Prop} {clock : Nat}
    (sound : LawfulStore.Sound store) (vacant : ∀ id, LawfulStore.record? store id = none)
    (run : Run allowed (initial store clock) fleet) : fleet.Documented := by
  induction run with
  | rest => exact documented_initial store clock
  | move move run _ step documented =>
      exact documented.step (run.coherent sound) vacant run.staffed (steps_of_step? step)

end Moves

/-! ## One attestation

Before its attestation is stored a record is waiting for it, and afterwards
never again. So it is stored once, as the record itself is stored once for the
first time. -/

section Places

variable {place earlier later : Nat} {id : String} {event : Event} {payload : Bytes}

omit [Store σ] [LawfulStore σ] in
theorem mem_versionsIn_take {worker : Nat} {record : Redemption}
    (stored : fleet.history[earlier]? = some ⟨worker, .stored record⟩) (before : earlier < later) :
    record ∈ versionsIn (fleet.history.take later) record.id := by
  have stillThere := (List.getElem?_take_of_lt before).trans stored
  exact List.mem_filterMap.mpr ⟨_, List.mem_of_getElem? stillThere, if_pos rfl⟩

omit [Store σ] [LawfulStore σ] in
theorem CreatesAt.not_before (left : fleet.CreatesAt earlier id event) {other : Event}
    (right : fleet.CreatesAt later id other) : ¬ earlier < later := by
  rcases left with ⟨worker, listener, raw, now, logged, -, -, rfl, stored, -⟩
  rcases right with ⟨_, _, _, _, _, -, -, -, -, first⟩
  intro before
  have among := mem_versionsIn_take stored before
  rw [show versionsIn _ (Redemption.observed raw.chain event now logged).id = [] from first]
    at among
  cases among

omit [Store σ] [LawfulStore σ] in
theorem AttestsAt.stored (attests : fleet.AttestsAt place id payload) :
    ∃ worker record, fleet.history[place]? = some ⟨worker, .stored record⟩ ∧ record.id = id ∧
      record.status = .fetched ∧ record.payload = some payload := by
  rcases attests with ⟨worker, base, changed, now, logged, stored, current, applied, -⟩
  refine ⟨worker, _, stored, ?_, (Redemption.status_of_apply applied).2, ?_⟩
  · exact (Redemption.sameRequest_of_apply applied).id.trans
      (id_of_mem_versionsIn (List.mem_of_getLast? current))
  · rcases Redemption.become_bind_eq_ok.mp applied with ⟨-, rfl⟩
    rfl

theorem AttestsAt.not_before (coherent : fleet.Coherent origin)
    (left : fleet.AttestsAt earlier id payload) {other : Bytes}
    (right : fleet.AttestsAt later id other) : ¬ earlier < later := by
  rcases left.stored with ⟨worker, record, stored, rfl, isFetched, -⟩
  rcases right with ⟨_, base, changed, now, logged, -, current, applied, -⟩
  intro before
  have among := mem_versionsIn_take stored before
  have ordered : (versionsIn (fleet.history.take later) record.id).Pairwise Redemption.Before := by
    refine (Redemption.pairwise_before (coherent.linked record.id)).sublist ?_
    exact ((List.take_sublist later fleet.history).filterMap _).trans
      (List.sublist_append_right _ _)
  have progress : record.status.rank ≤ base.status.rank := by
    rcases Redemption.eq_or_before_last ordered among current with rfl | before
    · exact Nat.le_refl _
    · exact before.rank
  have edge := (Redemption.status_of_apply applied).1
  rw [isFetched] at progress
  revert edge progress
  cases base.status <;> decide

end Places

/-! ## Calls -/

/-- A fetch names the redemption itself. A submission carries the event from
which the record was made and the payload of the attestation that was stored;
both have been stored once, in this order, before the call. -/
structure Faithful (fleet : Fleet σ) : Prop where
  fetches : ∀ (place worker : Nat) (id sourceTxHash : String),
    fleet.history[place]? = some ⟨worker, .called id (.fetch sourceTxHash)⟩ → sourceTxHash = id
  submits : ∀ (place worker : Nat) (id : String) (payload : Bytes) (event : Event),
    fleet.history[place]? = some ⟨worker, .called id (.submit payload event)⟩ →
      ∃ creation attestation, creation < attestation ∧ attestation < place ∧
        fleet.CreatesAt creation id event ∧
        (∀ other event', fleet.CreatesAt other id event' → other = creation) ∧
        fleet.AttestsAt attestation id payload ∧
        ∀ other payload', fleet.AttestsAt other id payload' →
          other = attestation ∧ payload' = payload

theorem calls_faithful {clock : Nat} (sound : LawfulStore.Sound store)
    (vacant : ∀ id, LawfulStore.record? store id = none)
    (run : Run Free (initial store clock) fleet) : fleet.Faithful := by
  have documented := run.documented sound vacant
  have coherent := run.coherent sound
  constructor
  · intro place worker id sourceTxHash called
    exact documented.warranted place worker id _ called
  · intro place worker id payload event called
    rcases documented.warranted place worker id _ called with
      ⟨creation, attestation, earlier, before, creates, attests⟩
    refine ⟨creation, attestation, earlier, before, creates, ?_, attests, ?_⟩
    · intro other event' creates'
      exact Nat.le_antisymm (Nat.le_of_not_lt (creates.not_before creates'))
        (Nat.le_of_not_lt (creates'.not_before creates))
    · intro other payload' attests'
      have samePlace : other = attestation :=
        Nat.le_antisymm (Nat.le_of_not_lt (attests.not_before coherent attests'))
          (Nat.le_of_not_lt (attests'.not_before coherent attests))
      subst samePlace
      rcases attests.stored with ⟨_, record, stored, -, -, isPayload⟩
      rcases attests'.stored with ⟨_, record', stored', -, -, isPayload'⟩
      cases stored.symm.trans stored'
      exact ⟨rfl, Option.some.inj (isPayload'.symm.trans isPayload)⟩

/-- A request is taken in, attested and submitted. -/
theorem calls_faithful_at_settlement :
    ∃ fleet : Fleet MemoryStore, fleet.Faithful ∧
      (fleet.history.filterMap fun entry => match entry.deed with
        | .called id call => some (id, call matches .submit _ _)
        | _ => none) = [("0xa1", false), ("0xa1", true)] := by
  let moves : List Move :=
    Sample.arrival ++ [.launchBatch .attestation {} none] ++ Sample.claim 1 ++ [.act 1 .call] ++
      Sample.conclusion 1 Sample.attests ++ [.launchBatch .settlement {} none] ++
      Sample.claim 2 ++ [.act 2 .call]
  have happened : ((initial ({} : MemoryStore) 0).follow? Free moves).map (fun fleet =>
      (fleet.history.filterMap fun entry => match entry.deed with
        | .called id call => some (id, call matches .submit _ _)
        | _ => none)) = some [("0xa1", false), ("0xa1", true)] := by
    decide +kernel
  rcases Option.map_eq_some_iff.mp happened with ⟨fleet, followed, seen⟩
  have run : Run Free (initial ({} : MemoryStore) 0) fleet := .of_follow? .rest followed
  exact ⟨fleet, calls_faithful trivial (fun _ => rfl) run, seen⟩

end Fleet

end RedemptionRelay

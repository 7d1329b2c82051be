import RedemptionRelay.Proofs.Intake.Channel
import RedemptionRelay.Proofs.Intake.Delivery

/-! # The intake comes to its end

A channel that is quiet stays quiet: all senders are gone, or it is closed and
no place in it is left to fill. From then on every step of the intake brings it
nearer to its end, there is a step for it to take until it has ended, and when
it has ended everything sent has been handled. No send that begins after the
close gets through.
-/

namespace RedemptionRelay

/-! ## Quiet channels -/

namespace IntakeChannel

variable {channel : IntakeChannel} {index : Nat} {old new : Sender}

theorem isQuiet_iff : channel.isQuiet = true ↔
    (∀ sender ∈ channel.senders, sender.isGone = true) ∨
      channel.isClosed = true ∧ ∀ sender ∈ channel.senders, sender.isAdmitted = false := by
  simp only [isQuiet, Bool.or_eq_true, Bool.and_eq_true, Bool.not_eq_true', List.all_eq_true,
    List.any_eq_false, Bool.not_eq_true]

theorem closed_of_quiet (quiet : channel.isQuiet = true)
    (there : channel.senders[index]? = some old) (held : old.isGone = false) :
    channel.isClosed = true ∧ ∀ sender ∈ channel.senders, sender.isAdmitted = false := by
  rcases isQuiet_iff.mp quiet with gone | closed
  · have isGone := gone old (List.mem_of_getElem? there)
    rw [held] at isGone
    cases isGone
  · exact closed

theorem isQuiet_set (quiet : channel.isQuiet = true)
    (there : channel.senders[index]? = some old) (held : old.isGone = false)
    (unadmitted : new.isAdmitted = false) : (channel.set index new).isQuiet = true := by
  rcases closed_of_quiet quiet there held with ⟨closed, none⟩
  refine isQuiet_iff.mpr (.inr ⟨closed, ?_⟩)
  intro sender member
  rcases List.mem_or_eq_of_mem_set member with member | rfl
  · exact none sender member
  · exact unadmitted

theorem isQuiet_clone (quiet : channel.isQuiet = true)
    (there : channel.senders[index]? = some old) (held : old.isGone = false) :
    isQuiet { channel with senders := channel.senders ++ [.idle] } = true := by
  rcases closed_of_quiet quiet there held with ⟨closed, none⟩
  refine isQuiet_iff.mpr (.inr ⟨closed, ?_⟩)
  intro sender member
  rcases List.mem_append.mp member with member | member
  · exact none sender member
  · cases List.mem_singleton.mp member
    rfl

theorem isQuiet_close (quiet : channel.isQuiet = true) : channel.close.isQuiet = true := by
  rcases isQuiet_iff.mp quiet with gone | closed
  · exact isQuiet_iff.mpr (.inl gone)
  · exact isQuiet_iff.mpr (.inr ⟨rfl, closed.2⟩)

def Admits (channel : IntakeChannel) (index : Nat) : Prop :=
  ∃ event, channel.senders[index]? = some (.admitted event)

theorem admits_of_clone
    (admits : Admits { channel with senders := channel.senders ++ [.idle] } index) :
    channel.Admits index := by
  rcases admits with ⟨event, there⟩
  rw [List.getElem?_append] at there
  split at there
  · exact ⟨event, there⟩
  · have idle := List.mem_of_getElem? there
    cases List.mem_singleton.mp idle

theorem admits_of_set {place : Nat} (admits : (channel.set place new).Admits index) :
    index = place ∧ new.isAdmitted = true ∨ channel.Admits index := by
  rcases admits with ⟨event, there⟩
  unfold set at there
  rw [List.getElem?_set] at there
  split at there
  · next same =>
      split at there
      · exact .inl ⟨same.symm, by rw [Option.some.inj there]; rfl⟩
      · cases there
  · exact .inr ⟨event, there⟩

end IntakeChannel

namespace IntakeLoop

variable {listener : Listener} {senders : Nat} {deeds new later : List IntakeDeed}
  {loop next last : IntakeLoop}

theorem Moves.quiet (moves : loop.Moves new next) (quiet : loop.channel.isQuiet = true) :
    sentIn new = [] ∧ next.channel.isQuiet = true := by
  cases moves with
  | cloned there held => exact ⟨rfl, IntakeChannel.isQuiet_clone quiet there held⟩
  | began idle => exact ⟨rfl, IntakeChannel.isQuiet_set quiet idle rfl rfl⟩
  | admitted isOpen waits =>
      have closed := (IntakeChannel.closed_of_quiet quiet waits rfl).1
      rw [isOpen] at closed
      cases closed
  | sent hasPlace =>
      have none := (IntakeChannel.closed_of_quiet quiet hasPlace rfl).2
      cases none _ (List.mem_of_getElem? hasPlace)
  | gaveUp there held => exact ⟨rfl, IntakeChannel.isQuiet_set quiet there held rfl⟩
  | left idle => exact ⟨rfl, IntakeChannel.isQuiet_set quiet idle rfl rfl⟩
  | closed | returned => exact ⟨rfl, IntakeChannel.isQuiet_close quiet⟩
  | signalled | handed | answered | recorded => exact ⟨rfl, quiet⟩

theorem Run.quiet (run : Run loop deeds next) (quiet : loop.channel.isQuiet = true) :
    sentIn deeds = [] ∧ next.channel.isQuiet = true := by
  induction run with
  | rest => exact ⟨rfl, quiet⟩
  | move _ _ step induction =>
      have moved := (moves_of_step? step).quiet induction.2
      rw [sentIn_append, induction.1]
      exact moved

/-! ## The end -/

/-- The intake ends with nothing at hand, when nothing more can come. -/
def EndsIdle (loop : IntakeLoop) : Prop :=
  loop.isFinished = true → loop.current = none ∧ loop.channel.isOver = true

theorem isOver_iff {channel : IntakeChannel} :
    channel.isOver = true ↔ channel.queue = [] ∧ channel.isQuiet = true := by
  rw [IntakeChannel.isOver, Bool.and_eq_true, List.isEmpty_iff]

theorem Moves.endsIdle (moves : loop.Moves new next) (endsIdle : loop.EndsIdle) :
    next.EndsIdle := by
  intro finished
  by_cases running : loop.isFinished = true
  · rcases endsIdle running with ⟨free, exhausted⟩
    rcases isOver_iff.mp exhausted with ⟨empty, quiet⟩
    have still := moves.quiet quiet
    have conserved := moves.conserves
    rw [empty, still.1] at conserved
    have emptyAfter := (List.append_eq_nil_iff.mp conserved).2
    refine ⟨?_, isOver_iff.mpr ⟨emptyAfter, still.2⟩⟩
    cases moves with
    | handed stillRunning | closed stillRunning | returned stillRunning =>
        cases running.symm.trans stillRunning
    | answered atHand | recorded atHand => cases free.symm.trans atHand
    | cloned | began | admitted | sent | gaveUp | left | signalled => exact free
  · cases moves with
    | returned _ free exhausted =>
        rcases isOver_iff.mp exhausted with ⟨empty, quiet⟩
        exact ⟨free, isOver_iff.mpr ⟨empty, IntakeChannel.isQuiet_close quiet⟩⟩
    | cloned | began | admitted | sent | gaveUp | left | signalled | handed | closed | answered
    | recorded => exact absurd finished running

theorem Run.endsIdle (run : Run (start listener senders) deeds loop) : loop.EndsIdle := by
  induction run with
  | rest =>
      intro finished
      cases finished
  | move _ _ step induction => exact (moves_of_step? step).endsIdle induction

/-! ## Late sends -/

theorem sublist_concat_cases {α : Type} {deeds : List α} {last deed : α} (earlier : List α)
    (told : (earlier ++ [last]).Sublist (deeds ++ [deed])) :
    (earlier ++ [last]).Sublist deeds ∨ earlier.Sublist deeds ∧ last = deed := by
  rcases List.sublist_append_iff.mp told with ⟨front, back, split, inFront, inBack⟩
  rcases List.sublist_singleton.mp inBack with rfl | rfl
  · rw [List.append_nil] at split
    exact .inl (split ▸ inFront)
  · rcases List.append_inj' split rfl with ⟨rfl, same⟩
    exact .inr ⟨inFront, List.singleton_inj.mp same⟩

/-- Who begins to send after the close has no place from then on, and sends nothing. -/
structure Punctual (deeds : List IntakeDeed) (channel : IntakeChannel) : Prop where
  unclosed : channel.isClosed = false → .closed ∉ deeds
  placeless : ∀ index event, [.closed, .began index event].Sublist deeds → ¬ channel.Admits index
  unsent : ∀ index event other,
    ¬ [.closed, .began index event, .sent index other].Sublist deeds

theorem Punctual.silent {channel after : IntakeChannel} (punctual : Punctual deeds channel)
    (closes : after.isClosed = false → channel.isClosed = false)
    (admits : ∀ index, after.Admits index → channel.Admits index ∨ channel.isClosed = false) :
    Punctual deeds after := by
  refine ⟨fun isOpen => punctual.unclosed (closes isOpen), ?_, punctual.unsent⟩
  intro index event late admitted
  rcases admits index admitted with before | isOpen
  · exact punctual.placeless index event late before
  · exact punctual.unclosed isOpen (late.subset (List.mem_cons_self ..))

theorem Punctual.told {channel : IntakeChannel} (deed : IntakeDeed)
    (punctual : Punctual deeds channel) (closes : deed = .closed → channel.isClosed = true)
    (begins : ∀ index event, deed = .began index event → ¬ channel.Admits index)
    (sends : ∀ index other, deed = .sent index other →
      ∀ event, ¬ [.closed, .began index event].Sublist deeds) :
    Punctual (deeds ++ [deed]) channel := by
  refine ⟨?_, ?_, ?_⟩
  · intro isOpen told
    rcases List.mem_append.mp told with before | now
    · exact punctual.unclosed isOpen before
    · have closed := closes (List.mem_singleton.mp now).symm
      rw [isOpen] at closed
      cases closed
  · intro index event late
    rcases sublist_concat_cases [IntakeDeed.closed] late with before | ⟨-, now⟩
    · exact punctual.placeless index event before
    · exact begins index event now.symm
  · intro index event other late
    rcases sublist_concat_cases [IntakeDeed.closed, .began index event] late with
      before | ⟨begun, now⟩
    · exact punctual.unsent index event other before
    · exact sends index other now.symm event begun

theorem Punctual.set {channel : IntakeChannel} {index : Nat} {sender : Sender}
    (punctual : Punctual deeds channel) (unadmitted : sender.isAdmitted = false) :
    Punctual deeds (channel.set index sender) := by
  refine punctual.silent id ?_
  intro other admits
  rcases IntakeChannel.admits_of_set admits with ⟨-, admitted⟩ | before
  · rw [unadmitted] at admitted
    cases admitted
  · exact .inl before

theorem Punctual.close {channel : IntakeChannel} (punctual : Punctual deeds channel) :
    Punctual deeds channel.close := by
  refine punctual.silent ?_ fun _ admits => .inl admits
  intro isOpen
  cases isOpen

theorem Moves.punctual (moves : loop.Moves new next) (punctual : Punctual deeds loop.channel) :
    Punctual (deeds ++ new) next.channel := by
  cases moves with
  | cloned =>
      rw [List.append_nil]
      exact punctual.silent id fun _ admits => .inl (IntakeChannel.admits_of_clone admits)
  | @began index event idle =>
      refine (punctual.set rfl).told (.began index event) nofun ?_ nofun
      intro other _ same admits
      cases same
      rcases IntakeChannel.admits_of_set admits with ⟨-, admitted⟩ | ⟨_, there⟩
      · cases admitted
      · cases idle.symm.trans there
  | admitted isOpen =>
      rw [List.append_nil]
      exact punctual.silent id fun _ _ => .inr isOpen
  | @sent index event hasPlace =>
      have emptied : Punctual deeds (loop.channel.set index .idle) := punctual.set rfl
      have queued : Punctual deeds { loop.channel.set index .idle with
          queue := loop.channel.queue ++ [event] } :=
        emptied.silent id fun _ admits => .inl admits
      refine queued.told (.sent index event) nofun nofun ?_
      intro other _ same begun late
      cases same
      exact punctual.placeless index begun late ⟨event, hasPlace⟩
  | gaveUp | left =>
      rw [List.append_nil]
      exact punctual.set rfl
  | signalled =>
      rw [List.append_nil]
      exact punctual
  | @handed event queue =>
      have taken : Punctual deeds { loop.channel with queue := queue } :=
        punctual.silent id fun _ admits => .inl admits
      exact taken.told (.handed event) nofun nofun nofun
  | closed => exact punctual.close.told .closed (fun _ => rfl) nofun nofun
  | answered => exact punctual.told .answered nofun nofun nofun
  | @recorded _ result => exact punctual.told (.recorded result) nofun nofun nofun
  | returned => exact punctual.close.told .returned nofun nofun nofun

theorem Run.punctual (run : Run (start listener senders) deeds loop) :
    Punctual deeds loop.channel := by
  induction run with
  | rest => exact ⟨nofun, nofun, nofun⟩
  | move _ _ step induction => exact (moves_of_step? step).punctual induction

end IntakeLoop

/-! ## How much is left to do -/

namespace Intake

theorem rank_fst (work : Intake) : work.rank.1 = 0 := by
  cases work <;> rfl

theorem rank_start_le (listener : Listener) (event : RawEvent) :
    (start listener event).rank.2 ≤ 4 := by
  unfold start
  split
  · exact Nat.le_refl 4
  · exact Nat.zero_le 4

theorem rank_resume_lt {work : Intake} {request : Request}
    {resume : request.Answer → Intake} (asks : work.next = .ask request resume)
    (answer : request.Answer) : (resume answer).rank.2 < work.rank.2 := by
  rcases work.descends_next request resume answer asks with first | second
  · rw [rank_fst, rank_fst] at first
    exact absurd first (Nat.lt_irrefl 0)
  · exact second.2

def left : Option Intake → Nat
  | some work => work.rank.2 + 1
  | none => 0

end Intake

namespace IntakeLoop

variable {listener : Listener} {senders : Nat} {deeds new later : List IntakeDeed}
  {loop next last : IntakeLoop}

/-- The steps that the intake can still take if nothing more comes: at most six
for each event that waits, the close and the return. -/
def ahead (loop : IntakeLoop) : Nat :=
  6 * loop.channel.queue.length + Intake.left loop.current +
    (if loop.isDraining then 0 else 1) + (if loop.isFinished then 0 else 1)

def steps (deeds : List IntakeDeed) : Nat :=
  deeds.countP IntakeDeed.isOwn

theorem Moves.paced (moves : loop.Moves new next) :
    steps new + next.ahead ≤ loop.ahead + 6 * (sentIn new).length := by
  cases moves with
  | cloned | began | admitted | gaveUp | left | signalled => exact Nat.le_of_eq (Nat.zero_add _)
  | sent =>
      simp only [ahead, List.length_append, List.length_singleton]
      change 0 + _ ≤ _ + 6 * 1
      omega
  | @handed event queue running free first =>
      have short := Intake.rank_start_le loop.listener event
      simp only [ahead, Intake.left, free, first, List.length_cons]
      change 1 + _ ≤ _ + 6 * 0
      omega
  | closed _ _ unnoticed =>
      simp only [ahead, unnoticed, IntakeChannel.close, if_pos, Bool.false_eq_true, if_false]
      change 1 + _ ≤ _ + 6 * 0
      omega
  | answered atHand asks answer =>
      have nearer := Intake.rank_resume_lt asks answer
      simp only [ahead, Intake.left, atHand]
      change 1 + _ ≤ _ + 6 * 0
      omega
  | recorded atHand =>
      simp only [ahead, Intake.left, atHand]
      change 1 + _ ≤ _ + 6 * 0
      omega
  | returned running =>
      simp only [ahead, running, IntakeChannel.close, if_pos, Bool.false_eq_true, if_false]
      change 1 + _ ≤ _ + 6 * 0
      omega

theorem Run.paced (run : Run loop deeds next) :
    steps deeds + next.ahead ≤ loop.ahead + 6 * (sentIn deeds).length := by
  induction run with
  | rest => exact Nat.le_of_eq (Nat.zero_add _)
  | @move deeds new _ _ _ _ step induction =>
      have moved := (moves_of_step? step).paced
      have counted : steps (deeds ++ new) = steps deeds + steps new := List.countP_append ..
      rw [counted, sentIn_append, List.length_append]
      omega

theorem Run.finished_of_quiet (run : Run loop later last) (quiet : loop.channel.isQuiet = true)
    (longEnough : loop.ahead ≤ steps later) : last.isFinished = true := by
  have paced := run.paced
  rw [(run.quiet quiet).1, List.length_nil, Nat.mul_zero] at paced
  cases finished : last.isFinished with
  | true => rfl
  | false =>
      have ahead : 1 ≤ last.ahead := by
        simp only [IntakeLoop.ahead, finished, Bool.false_eq_true, if_false]
        exact Nat.le_add_left ..
      omega

/-! ## There is always a step -/

theorem step?_takeEvent {event : RawEvent} {waiting : List RawEvent}
    (running : loop.isFinished = false) (free : loop.current = none)
    (first : loop.channel.queue = event :: waiting) :
    loop.step? .takeEvent = some ({ loop with
        channel := { loop.channel with queue := waiting }
        current := some (Intake.start loop.listener event) }, [.handed event]) := by
  simp only [step?, running, free, first]
  rfl

theorem step?_answer {work : Intake} {request : Request} {resume : request.Answer → Intake}
    (atHand : loop.current = some work) (asks : work.next = .ask request resume)
    (reply : (request : Request) → request.Answer) :
    loop.step? (.answer reply) =
      some ({ loop with current := some (resume (reply request)) }, [.answered]) := by
  simp only [step?, atHand, asks]

theorem step?_record {work : Intake} {result : IntakeResult} (atHand : loop.current = some work)
    (done : work.next = .done result) :
    loop.step? .record = some ({ loop with
      current := none, statistics := loop.statistics.count result }, [.recorded result]) := by
  simp only [step?, atHand, done]

theorem step?_finish (running : loop.isFinished = false) (free : loop.current = none)
    (exhausted : loop.channel.isOver = true) :
    loop.step? .finish = some ({ loop with
      channel := loop.channel.close, isFinished := true }, [.returned]) := by
  simp only [step?, running, free, exhausted]
  rfl

def turns (reply : (request : Request) → request.Answer) : List IntakeMove :=
  [.takeEvent, .answer reply, .record, .finish]

theorem exists_turn (running : loop.isFinished = false) (quiet : loop.channel.isQuiet = true)
    (reply : (request : Request) → request.Answer) :
    ∃ move ∈ turns reply, ∃ next deed,
      loop.step? move = some (next, [deed]) ∧ deed.isOwn = true := by
  cases atHand : loop.current with
  | some work =>
      cases goesOn : work.next with
      | ask request resume =>
          exact ⟨_, by simp [turns], _, _, step?_answer atHand goesOn reply, rfl⟩
      | done result => exact ⟨_, by simp [turns], _, _, step?_record atHand goesOn, rfl⟩
  | none =>
      cases first : loop.channel.queue with
      | cons event waiting =>
          exact ⟨_, by simp [turns], _, _, step?_takeEvent running atHand first, rfl⟩
      | nil =>
          have exhausted := isOver_iff.mpr ⟨first, quiet⟩
          exact ⟨_, by simp [turns], _, _, step?_finish running atHand exhausted, rfl⟩

/-! ## What it comes to

With nobody in between, the turns of the intake drain the channel. -/

variable {World : Type}

def handle (listener : Listener) (surroundings : Surroundings World) (world : World)
    (event : RawEvent) : IntakeResult × World :=
  Activity.run surroundings world (Intake.start listener event)

theorem exists_run_of_work (surroundings : Surroundings World) (world : World) (work : Intake)
    (loop : IntakeLoop) :
    ∃ deeds, Run { loop with current := some work } deeds { loop with
      current := none
      statistics := loop.statistics.count (Activity.run surroundings world work).1 } := by
  fun_induction Activity.run surroundings world work with
  | case1 world work result done => exact ⟨_, .one (step?_record rfl done)⟩
  | case2 world work request resume asks answer after answered induction =>
      have step := @step?_answer { loop with current := some work } _ _ _ rfl asks
        fun request => (surroundings world request).1
      rw [answered] at step
      rcases induction with ⟨deeds, run⟩
      exact ⟨_, (Run.one step).trans run⟩

theorem exists_run_of_quiet (surroundings : Surroundings World) (world : World)
    (running : loop.isFinished = false) (free : loop.current = none)
    (quiet : loop.channel.isQuiet = true) :
    ∃ deeds last, Run loop deeds last ∧ last.isFinished = true ∧
      last.statistics =
        (drain (handle loop.listener surroundings) world loop.statistics loop.channel.queue).1 := by
  induction waiting : loop.channel.queue generalizing loop world with
  | nil =>
      have exhausted := isOver_iff.mpr ⟨waiting, quiet⟩
      exact ⟨_, _, .one (step?_finish running free exhausted), rfl, rfl⟩
  | cons event rest induction =>
      have taken := Run.one (step?_takeEvent running free waiting)
      rcases exists_run_of_work surroundings world (Intake.start loop.listener event)
        { loop with channel := { loop.channel with queue := rest } } with ⟨handling, handled⟩
      rcases @induction { loop with
          channel := { loop.channel with queue := rest }
          current := none
          statistics := loop.statistics.count (handle loop.listener surroundings world event).1 }
        (handle loop.listener surroundings world event).2 running rfl quiet rfl with
        ⟨drained, last, run, finished, statistics⟩
      exact ⟨_, last, (taken.trans handled).trans run, finished, statistics⟩

/-! ## The whole course -/

/-- What holds of the intake after any moves. -/
structure LosesNothing (listener : Listener) (deeds : List IntakeDeed) (loop : IntakeLoop) :
    Prop where
  /-- The events come in the order in which they were sent, and none is lost or doubled. -/
  ordered : handedIn deeds ++ loop.channel.queue = sentIn deeds
  records : Intake.Records listener loop.current loop.statistics (handedIn deeds)
    (resultsIn deeds)
  /-- A send that begins after the close does not get through. -/
  punctual : ∀ index event other,
    ¬ [.closed, .began index event, .sent index other].Sublist deeds
  ended : loop.isFinished = true →
    loop.channel.isOver = true ∧ handedIn deeds = sentIn deeds ∧
      loop.statistics.total = (sentIn deeds).length
  /-- When nothing more can come, the intake is not held up, and ends. -/
  awake : loop.isFinished = false → loop.channel.isQuiet = true → ∀ reply,
    ∃ move ∈ turns reply, ∃ next deed,
      loop.step? move = some (next, [deed]) ∧ deed.isOwn = true
  ends : loop.channel.isQuiet = true → ∀ later last, Run loop later last →
    loop.ahead ≤ steps later → last.isFinished = true
  /-- Left alone it drains the channel. -/
  drains : loop.isFinished = false → loop.current = none → loop.channel.isQuiet = true →
    ∀ (World : Type) (surroundings : Surroundings World) (world : World),
      ∃ later last, Run loop later last ∧ last.isFinished = true ∧
        last.statistics =
          (drain (handle listener surroundings) world loop.statistics loop.channel.queue).1

/-- Whatever the order in which senders, shutdown and intake move, and whatever
the store answers. -/
theorem intake_loses_nothing (run : Run (start listener senders) deeds loop) :
    LosesNothing listener deeds loop := by
  rcases run.records with ⟨rfl, records⟩
  exact
    { ordered := run.conserves
      records := records
      punctual := run.punctual.unsent
      ended := by
        intro finished
        rcases run.endsIdle finished with ⟨free, exhausted⟩
        have conserved := run.conserves
        rw [(isOver_iff.mp exhausted).1, List.append_nil] at conserved
        rw [free] at records
        exact ⟨exhausted, conserved, conserved ▸ records.total_of_free⟩
      awake := exists_turn
      ends := fun quiet _ _ goesOn => goesOn.finished_of_quiet quiet
      drains := fun running free quiet _ surroundings world =>
        exists_run_of_quiet surroundings world running free quiet }

def follow? (loop : IntakeLoop) : List IntakeMove → Option (IntakeLoop × List IntakeDeed)
  | [] => some (loop, [])
  | move :: moves => do
      let (next, new) ← loop.step? move
      let (last, later) ← next.follow? moves
      return (last, new ++ later)

theorem Run.of_follow? {moves : List IntakeMove}
    (followed : loop.follow? moves = some (last, deeds)) : Run loop deeds last := by
  induction moves generalizing loop deeds with
  | nil =>
      cases followed
      exact .rest
  | cons move moves induction =>
      simp only [follow?, Option.bind_eq_bind, Option.bind_eq_some_iff, Option.pure_def] at followed
      rcases followed with ⟨⟨next, new⟩, step, ⟨last, later⟩, rest, same⟩
      cases same
      exact (Run.one step).trans (induction rest)

end IntakeLoop

namespace IntakeLoop.Sample

def reply (creation : Except StoreError Creation) : (request : Request) → request.Answer
  | .listRecords _ _ => .ok []
  | .readClock => 0
  | .create _ => creation
  | .update _ expected => .ok (expected + 1)
  | .perform _ _ => none
  | .announce _ => ()

/-- The second sender has its place when the channel is closed, and sends after
that. The first one waits for a place at the close, and then begins once more. -/
def moves : List IntakeMove :=
  let created := IntakeMove.answer (reply (.ok .created))
  let failed := IntakeMove.answer (reply (.error (.database "disk I/O error")))
  [ .sender 0 (.begin (Calm.Sample.event "0xa1" "5")), .sender 0 .takePlace, .sender 0 .deliver,
    .sender 1 (.begin (Calm.Sample.event "0xb2" "6")), .sender 1 .takePlace,
    .sender 0 (.begin (Calm.Sample.event "0xc3" "7")), .signal,
    .takeEvent, created, created, created, created, .record,
    .takeSignal, .sender 0 .giveUp,
    .sender 0 (.begin (Calm.Sample.event "0xc3" "7")), .sender 0 .giveUp,
    .sender 1 .deliver, .takeEvent, failed, failed, failed, .record,
    .finish ]

end IntakeLoop.Sample

namespace IntakeLoop

theorem intake_loses_nothing_at_shutdown :
    ∃ deeds loop, Run (start Calm.Sample.listener 2) deeds loop ∧
      loop.isFinished = true ∧ (sentIn deeds).length = 2 ∧
      loop.statistics = { created := 1, errors := 1 } ∧
      LosesNothing Calm.Sample.listener deeds loop := by
  have happened : ∃ told ∈ (start Calm.Sample.listener 2).follow? Sample.moves,
      told.1.isFinished = true ∧ (sentIn told.2).length = 2 ∧
        told.1.statistics = { created := 1, errors := 1 } := by
    decide +kernel
  rcases happened with ⟨⟨loop, deeds⟩, followed, finished, sent, statistics⟩
  have run := Run.of_follow? followed
  exact ⟨deeds, loop, run, finished, sent, statistics, intake_loses_nothing run⟩

end IntakeLoop

end RedemptionRelay

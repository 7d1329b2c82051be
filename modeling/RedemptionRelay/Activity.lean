import RedemptionRelay.Attestation
import RedemptionRelay.Milestone
import RedemptionRelay.Settlement
import RedemptionRelay.Store
import RedemptionRelay.Text.Duration

/-! # Activities

The relay's work is written as activities. An activity never reaches out by
itself: it states one request at a time and goes on with the answer. So the
same activity can be run to its end in one go, be held up while a call is on
its way, or be interleaved step by step with others.
-/

namespace RedemptionRelay

/-- A call to an external service. -/
inductive Call where
  | fetch (sourceTxHash : String)
  | submit (payload : Bytes) (event : Event)
deriving DecidableEq, Repr

/-- What a service says to a call. -/
abbrev Call.Reply : Call → Type
  | .fetch _ => AttestationResult
  | .submit _ _ => SettlementResult

inductive Request where
  | listRecords (status : Status) (chain : Option String)
  | readClock
  | create (record : Redemption)
  | update (record : Redemption) (expected : Nat)
  | perform (call : Call) (limit : Duration)
  | announce (milestone : Milestone)
deriving DecidableEq, Repr

/-- The form of the answer. A call that has no reply within its limit is
answered by `none`. -/
abbrev Request.Answer : Request → Type
  | .listRecords _ _ => Except StoreError (List Redemption)
  | .readClock => Nat
  | .create _ => Except StoreError Creation
  | .update _ _ => Except StoreError Nat
  | .perform call _ => Option call.Reply
  | .announce _ => Unit

inductive Next (State Result : Type) where
  | done (result : Result)
  | ask (request : Request) (resume : request.Answer → State)

/-- Lexicographic order of pairs of numbers. -/
def Descends (later earlier : Nat × Nat) : Prop :=
  later.1 < earlier.1 ∨ (later.1 = earlier.1 ∧ later.2 < earlier.2)

/-- Every answer brings an activity nearer to its end. -/
class Activity (State : Type) (Result : outParam Type) where
  next : State → Next State Result
  rank : State → Nat × Nat
  descends : ∀ (state : State) (request : Request) (resume : request.Answer → State)
    (answer : request.Answer),
    next state = .ask request resume → Descends (rank (resume answer)) (rank state)

/-- How a world answers requests, and what becomes of it. -/
abbrev Surroundings (World : Type) :=
  World → (request : Request) → request.Answer × World

namespace Activity

theorem lex_of_descends {later earlier : Nat × Nat} (descends : Descends later earlier) :
    Prod.Lex (· < ·) (· < ·) later earlier := by
  rcases descends with first | ⟨first, second⟩
  · exact Prod.Lex.left _ _ first
  · rcases later with ⟨a, b⟩
    rcases earlier with ⟨c, d⟩
    simp only at first second
    subst first
    exact Prod.Lex.right _ second

def run {World State Result : Type} [Activity State Result] (surroundings : Surroundings World)
    (world : World) (state : State) : Result × World :=
  match _ : next state with
  | .done result => (result, world)
  | .ask request resume =>
      let (answer, world) := surroundings world request
      run surroundings world (resume answer)
termination_by rank state
decreasing_by exact lex_of_descends (descends state request resume _ ‹_›)

def runWhile {World State Result : Type} [Activity State Result]
    (surroundings : Surroundings World) (goesOn : World → Request → Bool)
    (world : World) (state : State) : State × World :=
  match _ : next state with
  | .done _ => (state, world)
  | .ask request resume =>
      if goesOn world request then
        let (answer, world) := surroundings world request
        runWhile surroundings goesOn world (resume answer)
      else (state, world)
termination_by rank state
decreasing_by exact lex_of_descends (descends state request resume _ ‹_›)

end Activity

end RedemptionRelay

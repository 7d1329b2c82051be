import RedemptionRelay.Activity
import RedemptionRelay.Chain.Adaptation

/-! # Intake

An event on a configured chain becomes a new record, unless a record with its
identifier is there already. Events on other chains and malformed events are
skipped; only a failing store is an error.
-/

namespace RedemptionRelay

/-- An event as a chain delivers it. -/
structure RawEvent where
  chain : String
  payload : Json.Value

inductive IntakeOutcome where
  | created (id : String)
  | duplicate (id : String)
  | skipped (reason : String)
deriving DecidableEq, Repr

abbrev IntakeResult := Except StoreError IntakeOutcome

/-! ## Statistics -/

structure IntakeStatistics where
  created : Nat := 0
  duplicates : Nat := 0
  skipped : Nat := 0
  errors : Nat := 0
deriving DecidableEq, Repr

namespace IntakeStatistics

def count (statistics : IntakeStatistics) : IntakeResult → IntakeStatistics
  | .ok (.created _) => { statistics with created := statistics.created + 1 }
  | .ok (.duplicate _) => { statistics with duplicates := statistics.duplicates + 1 }
  | .ok (.skipped _) => { statistics with skipped := statistics.skipped + 1 }
  | .error _ => { statistics with errors := statistics.errors + 1 }

def text (statistics : IntakeStatistics) : String :=
  s!"created: {statistics.created}, duplicates: {statistics.duplicates}, " ++
  s!"skipped: {statistics.skipped}, errors: {statistics.errors}"

end IntakeStatistics

/-! ## Listeners -/

/-- The chains listened to; the last of several with one name counts. -/
structure Listener where
  chains : List Chain

namespace Listener

def kind? (listener : Listener) (chain : String) : Option ChainKind :=
  (listener.chains.reverse.find? (·.name == chain)).map (·.kind)

def request (listener : Listener) (raw : RawEvent) : Except String Event :=
  match listener.kind? raw.chain with
  | none => .error s!"unknown chain: {raw.chain}"
  | some kind =>
      match kind.adapt raw.payload with
      | .ok event => .ok event
      | .error error => .error error.message

end Listener

/-! ## The course of an intake -/

inductive Intake where
  | stamping (chain : String) (event : Event)
  | logging (chain : String) (event : Event) (now : Nat)
  | creating (record : Redemption)
  | announcing (record : Redemption)
  | finished (result : IntakeResult)

namespace Intake

def start (listener : Listener) (raw : RawEvent) : Intake :=
  match listener.request raw with
  | .ok event => .stamping raw.chain event
  | .error reason => .finished (.ok (.skipped reason))

def next : Intake → Next Intake IntakeResult
  | .stamping chain event =>
      .ask .readClock fun now => .logging chain event now
  | .logging chain event now =>
      .ask .readClock fun logged => .creating (Redemption.observed chain event now logged)
  | .creating record =>
      .ask (.create record) fun
        | .ok .created => .announcing record
        | .ok .alreadyExists => .finished (.ok (.duplicate record.id))
        | .error error => .finished (.error error)
  | .announcing record =>
      .ask (.announce (.observed record)) fun _ => .finished (.ok (.created record.id))
  | .finished result => .done result

def rank : Intake → Nat × Nat
  | .stamping _ _ => (0, 4)
  | .logging _ _ _ => (0, 3)
  | .creating _ => (0, 2)
  | .announcing _ => (0, 1)
  | .finished _ => (0, 0)

theorem descends_next (intake : Intake) (request : Request) (resume : request.Answer → Intake)
    (answer : request.Answer) (asks : intake.next = .ask request resume) :
    Descends (resume answer).rank intake.rank := by
  cases intake with
  | stamping chain event =>
      simp only [next, Next.ask.injEq] at asks
      rcases asks with ⟨rfl, same⟩
      cases same
      exact Or.inr ⟨rfl, by simp [rank]⟩
  | logging chain event now =>
      simp only [next, Next.ask.injEq] at asks
      rcases asks with ⟨rfl, same⟩
      cases same
      exact Or.inr ⟨rfl, by simp [rank]⟩
  | creating record =>
      simp only [next, Next.ask.injEq] at asks
      rcases asks with ⟨rfl, same⟩
      cases same
      right
      cases answer with
      | ok creation => cases creation <;> exact ⟨rfl, by simp [rank]⟩
      | error error => exact ⟨rfl, by simp [rank]⟩
  | announcing record =>
      simp only [next, Next.ask.injEq] at asks
      rcases asks with ⟨rfl, same⟩
      cases same
      exact Or.inr ⟨rfl, by simp [rank]⟩
  | finished result => simp [next] at asks

instance : Activity Intake IntakeResult where
  next := next
  rank := rank
  descends := descends_next

end Intake

end RedemptionRelay

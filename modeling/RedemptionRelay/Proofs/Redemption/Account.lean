import RedemptionRelay.Batch
import RedemptionRelay.Proofs.Redemption.Consistency
import RedemptionRelay.Proofs.Redemption.Succession

/-! # The account of a record

What the journal has to say of a record is laid down by the states that were
stored: one line for the first of them, and one for each later one whose status
is new and is one that operators follow. Every line tells the settlement and
the error that the state has.
-/

namespace RedemptionRelay

def Status.line? : Status → Option (EventCategory × String)
  | .fetched => some (.attestation, "attestation_fetched")
  | .completed => some (.settlement, "redemption_completed")
  | .failed => some (.error, "redemption_failed")
  | .pending | .fetchFailed | .submitFailed => none

theorem Status.line?_of_canBecome_self {status : Status}
    (edge : status.canBecome status = true) : status.line? = none := by
  revert edge
  cases status <;> decide

namespace Redemption

def line (record : Redemption) (category : EventCategory) (name : String) : Milestone :=
  { category := category
    name := name
    redemptionId := record.id
    chain := record.chain
    status := record.status
    settlement := record.settlement
    error := record.error }

def firstLine (record : Redemption) : Milestone :=
  record.line .intake "redemption_observed"

def changeLine? (earlier later : Redemption) : Option Milestone :=
  if later.status = earlier.status then none
  else later.status.line?.map fun kind => later.line kind.1 kind.2

def nextLine? : Option Redemption → Redemption → Option Milestone
  | none, first => some first.firstLine
  | some last, next => last.changeLine? next

/-- The lines that the states stored since `last` call for, in their order. -/
def account (last : Option Redemption) : List Redemption → List Milestone
  | [] => []
  | next :: later => (nextLine? last next).toList ++ account (some next) later

theorem account_concat (last : Option Redemption) (states : List Redemption) (next : Redemption) :
    account last (states ++ [next]) =
      account last states ++ (nextLine? (last.toList ++ states).getLast? next).toList := by
  induction states generalizing last with
  | nil => cases last <;> simp [account]
  | cons state states induction =>
      simp only [List.cons_append, account, induction, List.append_assoc, Option.toList_some,
        List.nil_append, List.getLast?_append, List.getLast?_cons, Option.some_or]

end Redemption

/-! ## Courses -/

def Status.courses : Status → List (List String)
  | .pending | .fetchFailed => [
      ["attestation_fetched", "redemption_completed"],
      ["attestation_fetched", "redemption_failed"],
      ["redemption_failed"]]
  | .fetched | .submitFailed => [["redemption_completed"], ["redemption_failed"]]
  | .completed | .failed => [[]]

theorem Status.nodup_of_mem_courses (status : Status) :
    ∀ course ∈ status.courses, course.Nodup := by
  cases status <;> decide

theorem Status.courses_of_canBecome {status next : Status} (edge : status.canBecome next = true) :
    ∀ course ∈ next.courses,
      (if next = status then [] else (next.line?.map (·.2)).toList) ++ course ∈ status.courses := by
  revert edge
  cases status <;> cases next <;> decide

theorem Status.courses_ne_nil (status : Status) : status.courses ≠ [] := by
  cases status <;> simp [courses]

namespace Redemption

variable {record next : Redemption}

theorem names_changeLine? :
    ((record.changeLine? next).map (·.name)).toList =
      if next.status = record.status then [] else (next.status.line?.map (·.2)).toList := by
  unfold changeLine?
  split
  · rfl
  · cases next.status.line? <;> rfl

theorem Precedes.courses (precedes : record.Precedes next) {course : List String}
    (isCourse : course ∈ next.status.courses) :
    ((record.changeLine? next).map (·.name)).toList ++ course ∈ record.status.courses := by
  rcases precedes with ⟨-, mark, now, logged, changed, applied, rfl⟩
  rw [names_changeLine?]
  have status := status_of_apply applied
  cases target : mark.target? with
  | none =>
      rw [target] at status
      rw [if_pos status]
      exact status ▸ isCourse
  | some target' =>
      rw [target] at status
      exact Status.courses_of_canBecome (status.2 ▸ status.1) course isCourse

end Redemption

def Milestone.courses : List (List String) := [
  ["redemption_observed", "attestation_fetched", "redemption_completed"],
  ["redemption_observed", "attestation_fetched", "redemption_failed"],
  ["redemption_observed", "redemption_failed"]]

namespace Redemption

def courses : Option Redemption → List (List String)
  | none => Milestone.courses
  | some record => record.status.courses

theorem courses_of_begun {first : Redemption} (begins : first.status = .pending)
    {course : List String} (isCourse : course ∈ first.status.courses) :
    "redemption_observed" :: course ∈ Milestone.courses := by
  rw [begins] at isCourse
  exact List.mem_map_of_mem (f := ("redemption_observed" :: ·)) isCourse

theorem account_begins_course {last : Option Redemption} {states : List Redemption}
    (linked : (last.toList ++ states).IsChain Precedes)
    (begins : last = none → ∀ first ∈ states.head?, first.status = .pending) :
    ∃ course ∈ courses last, (account last states).map (·.name) <+: course := by
  induction states generalizing last with
  | nil =>
      cases last with
      | none => exact ⟨_, List.mem_cons_self, List.nil_prefix⟩
      | some record =>
          rcases List.exists_mem_of_ne_nil _ record.status.courses_ne_nil with ⟨course, isCourse⟩
          exact ⟨course, isCourse, List.nil_prefix⟩
  | cons next states induction =>
      have others : ((some next).toList ++ states).IsChain Precedes :=
        linked.suffix (List.suffix_append _ _)
      rcases induction others nofun with ⟨course, isCourse, starts⟩
      refine ⟨((nextLine? last next).map (·.name)).toList ++ course, ?_, ?_⟩
      · cases last with
        | none => exact courses_of_begun (begins rfl next rfl) isCourse
        | some record => exact (List.isChain_cons_cons.mp linked).1.courses isCourse
      · rw [account, List.map_append, Option.toList_map]
        exact (List.prefix_append_right_inj _).mpr starts

theorem nodup_account {last : Option Redemption} {states : List Redemption}
    (linked : (last.toList ++ states).IsChain Precedes)
    (begins : last = none → ∀ first ∈ states.head?, first.status = .pending) :
    (account last states).Nodup := by
  rcases account_begins_course linked begins with ⟨course, isCourse, starts⟩
  have distinct : course.Nodup := by
    cases last with
    | none => exact (by decide : ∀ course ∈ Milestone.courses, course.Nodup) course isCourse
    | some record => exact record.status.nodup_of_mem_courses course isCourse
  exact (starts.sublist.nodup distinct).of_map _

/-! ## What a worker writes -/

theorem Consistent.reached? {record : Redemption} (consistent : record.Consistent) :
    Milestone.reached? record =
      record.status.line?.map fun kind => record.line kind.1 kind.2 := by
  have settlement : record.status ≠ .completed → record.settlement = none := by
    rw [← Option.not_isSome_iff_eq_none]
    exact fun other settled => other (consistent.settlement_iff_completed.mp settled)
  have error : record.status = .fetched ∨ record.status = .completed → record.error = none := by
    rw [← Option.not_isSome_iff_eq_none]
    intro succeeded noted
    have failure := consistent.error_iff_failure.mp noted
    rcases succeeded with same | same <;> simp [same] at failure
  cases status : record.status with
  | fetched =>
      simp [Milestone.reached?, Status.line?, line, status, settlement, error]
  | completed =>
      simp [Milestone.reached?, Status.line?, line, status, error]
  | failed =>
      simp [Milestone.reached?, Status.line?, line, status, settlement]
  | pending | fetchFailed | submitFailed =>
      simp [Milestone.reached?, Status.line?, status]

theorem changeLine?_of_moved {record next : Redemption} {mark : Mark} {now logged : Nat}
    (changed : record.apply mark now logged = .ok next) (moves : mark.target?.isSome)
    (consistent : next.Consistent) : record.changeLine? next = Milestone.reached? next := by
  rcases Option.isSome_iff_exists.mp moves with ⟨target, isTarget⟩
  have status := status_of_apply changed
  rw [isTarget] at status
  rcases status with ⟨edge, reaches⟩
  rw [consistent.reached?, changeLine?]
  split
  · next same =>
      rw [← same, reaches] at edge
      rw [reaches, Status.line?_of_canBecome_self edge]
      rfl
  · rfl

theorem changeLine?_of_unmoved {record next : Redemption} {mark : Mark} {now logged : Nat}
    (changed : record.apply mark now logged = .ok next) (stays : mark.target? = none) :
    record.changeLine? next = none := by
  have status := status_of_apply changed
  rw [stays] at status
  exact if_pos status

end Redemption

end RedemptionRelay

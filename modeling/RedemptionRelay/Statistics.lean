import RedemptionRelay.Status

/-! # Statistics

How many redemptions are in each phase. A count of phases lists each phase at
most once; one that is not listed counts zero.
-/

namespace RedemptionRelay

abbrev StatusCounts := List (Status × Nat)

def StatusCounts.count (counts : StatusCounts) (status : Status) : Nat :=
  (counts.lookup status).getD 0

def StatusCounts.total (counts : StatusCounts) : Nat :=
  counts.foldr (fun entry total => entry.2 + total) 0

structure Statistics where
  total : Nat
  pending : Nat
  fetchFailed : Nat
  fetched : Nat
  submitFailed : Nat
  completed : Nat
  failed : Nat
deriving DecidableEq, Repr

namespace Statistics

def ofCounts (counts : StatusCounts) : Statistics :=
  { total := counts.total
    pending := counts.count .pending
    fetchFailed := counts.count .fetchFailed
    fetched := counts.count .fetched
    submitFailed := counts.count .submitFailed
    completed := counts.count .completed
    failed := counts.count .failed }

def text (statistics : Statistics) : String :=
  s!"Redemptions: {statistics.total} total | {statistics.pending} pending | " ++
  s!"{statistics.fetchFailed} fetch_failed | {statistics.fetched} fetched | " ++
  s!"{statistics.submitFailed} submit_failed | {statistics.completed} completed | " ++
  s!"{statistics.failed} failed"

end Statistics

end RedemptionRelay

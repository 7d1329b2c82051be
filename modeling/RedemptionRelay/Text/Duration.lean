import RedemptionRelay.Text.Digits

/-! # Durations

Lengths of time in nanoseconds, and their text: the largest unit that leaves a
non-zero whole part, with as many decimal places as needed.
-/

namespace RedemptionRelay

structure Duration where
  nanoseconds : Nat
deriving DecidableEq, Repr

namespace Duration

def nanosecondsPerSecond : Nat := 1000000000

def ofSeconds (seconds : Nat) : Duration :=
  ⟨seconds * nanosecondsPerSecond⟩

def wholeSeconds (duration : Duration) : Nat :=
  duration.nanoseconds / nanosecondsPerSecond

def ceilSeconds (duration : Duration) : Nat :=
  duration.wholeSeconds + if duration.nanoseconds % nanosecondsPerSecond > 0 then 1 else 0

def ceilMilliseconds (duration : Duration) : Nat :=
  (duration.nanoseconds + 999999) / 1000000

/-- A length in units of `unit` nanoseconds, with at most `places` decimals and
no zero at their end. -/
def inUnit (unit places : Nat) (suffix : String) (nanoseconds : Nat) : String :=
  let fraction := (Digits.padded places (nanoseconds % unit)).toList
  let kept := (fraction.reverse.dropWhile (· == '0')).reverse
  let point := if kept.isEmpty then [] else '.' :: kept
  s!"{nanoseconds / unit}" ++ String.ofList point ++ suffix

def text (duration : Duration) : String :=
  let nanoseconds := duration.nanoseconds
  if nanoseconds ≥ 1000000000 then inUnit 1000000000 9 "s" nanoseconds
  else if nanoseconds ≥ 1000000 then inUnit 1000000 6 "ms" nanoseconds
  else if nanoseconds ≥ 1000 then inUnit 1000 3 "µs" nanoseconds
  else inUnit 1 0 "ns" nanoseconds

end Duration

end RedemptionRelay

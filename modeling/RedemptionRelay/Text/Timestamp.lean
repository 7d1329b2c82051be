import RedemptionRelay.Text.Digits

/-! # Timestamps

Nanoseconds since the start of 1970 written as a date and time in UTC. The
fraction of a second has no more groups of three digits than it needs; a year of
more than four digits carries a plus sign.

The date is found in years that start in March, so that the leap day comes
last: 146097 days make a cycle of 400 years.
-/

namespace RedemptionRelay.Timestamp

structure Date where
  year : Nat
  month : Nat
  day : Nat
deriving DecidableEq, Repr

def Date.ofDays (daysSince1970 : Nat) : Date :=
  let days := daysSince1970 + 719468
  let cycle := days / 146097
  let dayOfCycle := days % 146097
  let yearOfCycle :=
    (dayOfCycle - dayOfCycle / 1460 + dayOfCycle / 36524 - dayOfCycle / 146096) / 365
  let dayOfYear := dayOfCycle - (365 * yearOfCycle + yearOfCycle / 4 - yearOfCycle / 100)
  let shiftedMonth := (5 * dayOfYear + 2) / 153
  let month := if shiftedMonth < 10 then shiftedMonth + 3 else shiftedMonth - 9
  { year := cycle * 400 + yearOfCycle + if month ≤ 2 then 1 else 0
    month := month
    day := dayOfYear - (153 * shiftedMonth + 2) / 5 + 1 }

def yearText (year : Nat) : String :=
  if year > 9999 then "+" ++ Digits.padded 5 year else Digits.padded 4 year

def fractionText (nanoseconds : Nat) : String :=
  if nanoseconds = 0 then ""
  else if nanoseconds % 1000000 = 0 then "." ++ Digits.padded 3 (nanoseconds / 1000000)
  else if nanoseconds % 1000 = 0 then "." ++ Digits.padded 6 (nanoseconds / 1000)
  else "." ++ Digits.padded 9 nanoseconds

def text (nanoseconds : Nat) : String :=
  let seconds := nanoseconds / 1000000000
  let date := Date.ofDays (seconds / 86400)
  let secondOfDay := seconds % 86400
  let two := Digits.padded 2
  yearText date.year ++ "-" ++ two date.month ++ "-" ++ two date.day ++ "T" ++
    two (secondOfDay / 3600) ++ ":" ++ two (secondOfDay / 60 % 60) ++ ":" ++
    two (secondOfDay % 60) ++ fractionText (nanoseconds % 1000000000) ++ "+00:00"

end RedemptionRelay.Timestamp

/-
This file writes moments: the date and the time of day in the zone of Greenwich, from the
seconds and microseconds that have passed since the start of 1970.

Years are counted from March, so that a leap day is the last day of its year; four hundred
years have the same number of days wherever they start.
-/

import BrowserPlan.Text.Basic

namespace BrowserPlan

/-- The days of four hundred years. -/
def daysOfEra : Nat :=
  146097

/-- The year, month and day of the given number of days since the first of March of year 0. -/
def dateOfDays (days : Nat) : Nat × Nat × Nat :=
  let era := days / daysOfEra
  let dayOfEra := days % daysOfEra
  let yearOfEra := (dayOfEra - dayOfEra / 1460 + dayOfEra / 36524 - dayOfEra / 146096) / 365
  let dayOfYear := dayOfEra - (365 * yearOfEra + yearOfEra / 4 - yearOfEra / 100)
  let month := (5 * dayOfYear + 2) / 153
  let day := dayOfYear - (153 * month + 2) / 5 + 1
  let year := era * 400 + yearOfEra
  if month < 10 then (year, month + 3, day) else (year + 1, month - 9, day)

/-- The days from the first of March of year 0 to the start of 1970. -/
def daysBefore1970 : Nat :=
  719468

/-- A number with zeros in front up to a width. -/
def padded (width number : Nat) : Text :=
  let digits := Text.ofNat number
  List.replicate (width - digits.length) '0' ++ digits

/-- A moment in words; microseconds are left out if there are none. -/
def momentText (seconds microseconds : Nat) : Text :=
  let (year, month, day) := dateOfDays (seconds / 86400 + daysBefore1970)
  let rest := seconds % 86400
  padded 4 year ++ "-" ++ padded 2 month ++ "-" ++ padded 2 day ++ "T" ++
    padded 2 (rest / 3600) ++ ":" ++ padded 2 (rest / 60 % 60) ++ ":" ++ padded 2 (rest % 60) ++
    (if microseconds = 0 then [] else '.' :: padded 6 microseconds) ++ "+00:00"

end BrowserPlan

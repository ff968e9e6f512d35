/-!
# Moments

A moment is told as a date and a time of day at Greenwich, with nanoseconds.

* `dateOfDay`: the date of a day counted from the first of January 1970.
* `momentText`: the text of a moment.
-/

namespace TraitWeave.CommandLine

/-- The year, month and day of the month of a day, counted from the first of January 1970. Years are
counted from March on, so that the day that leap years add is the last one. -/
def dateOfDay (day : Int) : Int × Nat × Nat :=
  let shifted := day + 719468
  let era := shifted / 146097
  let dayOfEra := (shifted % 146097).toNat
  let yearOfEra := (dayOfEra - dayOfEra / 1460 + dayOfEra / 36524 - dayOfEra / 146096) / 365
  let dayOfYear := dayOfEra - (365 * yearOfEra + yearOfEra / 4 - yearOfEra / 100)
  let month := (5 * dayOfYear + 2) / 153
  let dayOfMonth := dayOfYear - (153 * month + 2) / 5 + 1
  let calendarMonth := if month < 10 then month + 3 else month - 9
  (era * 400 + yearOfEra + (if calendarMonth ≤ 2 then 1 else 0), calendarMonth, dayOfMonth)

/-- A number with a fixed count of digits. -/
def fixedDigits (count n : Nat) : String :=
  let digits := toString n
  String.ofList (List.replicate (count - digits.length) '0') ++ digits

/-- The text of a moment, given in seconds from the start of 1970 and nanoseconds. -/
def momentText (seconds : Int) (nanoseconds : Nat) : String :=
  let (year, month, day) := dateOfDay (seconds / 86400)
  let second := (seconds % 86400).toNat
  fixedDigits 4 year.toNat ++ "-" ++ fixedDigits 2 month ++ "-" ++ fixedDigits 2 day ++ "T" ++
    fixedDigits 2 (second / 3600) ++ ":" ++ fixedDigits 2 (second / 60 % 60) ++ ":" ++
    fixedDigits 2 (second % 60) ++ "." ++ fixedDigits 9 nanoseconds ++ "Z"

end TraitWeave.CommandLine

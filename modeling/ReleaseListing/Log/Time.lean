/-!
# Times of log lines
-/

namespace ReleaseListing.Log

/-- Year, month and day of the day that is so many days behind the first of January 1970. Years are
counted from the first of March, so that the day that only some years have is their last. -/
def dateOf (days : Nat) : Nat × Nat × Nat :=
  let fromMarch := days + 719468
  let era := fromMarch / 146097
  let dayOfEra := fromMarch % 146097
  let yearOfEra := (dayOfEra - dayOfEra / 1460 + dayOfEra / 36524 - dayOfEra / 146096) / 365
  let dayOfYear := dayOfEra - (365 * yearOfEra + yearOfEra / 4 - yearOfEra / 100)
  let monthFromMarch := (5 * dayOfYear + 2) / 153
  let day := dayOfYear - (153 * monthFromMarch + 2) / 5 + 1
  let month := if monthFromMarch < 10 then monthFromMarch + 3 else monthFromMarch - 9
  (era * 400 + yearOfEra + (if month ≤ 2 then 1 else 0), month, day)

/-- A number with zeros in front of it. -/
def digits (width n : Nat) : String :=
  let text := toString n
  String.ofList (List.replicate (width - text.length) '0') ++ text

/-- A universal time, from its seconds and microseconds since the start of 1970. -/
def timeText (seconds microseconds : Nat) : String :=
  let (year, month, day) := dateOf (seconds / 86400)
  let second := seconds % 86400
  digits 4 year ++ "-" ++ digits 2 month ++ "-" ++ digits 2 day ++ "T" ++
    digits 2 (second / 3600) ++ ":" ++ digits 2 (second / 60 % 60) ++ ":" ++
    digits 2 (second % 60) ++ "." ++ digits 6 microseconds ++ "Z"

end ReleaseListing.Log

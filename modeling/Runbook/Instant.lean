/-!
Points in time and their text.
-/

namespace Runbook

/-- A point in time, counted in microseconds from the start of the year 1970. -/
structure Instant where
  micros : Int
deriving DecidableEq, Repr, Inhabited

namespace Instant

def microsecondsUntil (start stop : Instant) : Nat :=
  (stop.micros - start.micros).toNat

/-- The milliseconds from one instant to another, cut toward zero. -/
def millisecondsUntil (start stop : Instant) : Int :=
  (stop.micros - start.micros).tdiv 1000

/-- A calendar day. -/
structure Day where
  year : Int
  month : Nat
  day : Nat
deriving DecidableEq, Repr

/-- The day that lies the given number of days after the start of 1970. Years are counted from March
on, in eras of 400 years, so that a leap day ends its year. -/
def Day.ofCount (count : Int) : Day :=
  let shifted := count + 719468
  let era := shifted / 146097
  let inEra := (shifted % 146097).toNat
  let year := (inEra - inEra / 1460 + inEra / 36524 - inEra / 146096) / 365
  let inYear := inEra - (365 * year + year / 4 - year / 100)
  let fromMarch := (5 * inYear + 2) / 153
  let month := if fromMarch < 10 then fromMarch + 3 else fromMarch - 9
  { year := era * 400 + year + (if month ≤ 2 then 1 else 0)
    month
    day := inYear - (153 * fromMarch + 2) / 5 + 1 }

/-- How many days after the start of 1970 a day lies; a day beyond the end of its month belongs to the
next one. -/
def Day.count (date : Day) : Int :=
  let year := if date.month ≤ 2 then date.year - 1 else date.year
  let era := year / 400
  let inEra := year % 400
  let fromMarch := if date.month ≤ 2 then date.month + 9 else date.month - 3
  let inYear := (153 * fromMarch + 2) / 5
  era * 146097 + inEra * 365 + inEra / 4 - inEra / 100 + inYear - 719468 + (date.day - 1)

/-- The seconds since the start of 1970. -/
def seconds (instant : Instant) : Int :=
  instant.micros / 1000000

/-- A number with zeros in front up to the given width. -/
def padded (width n : Nat) : String :=
  let digits := toString n
  String.ofList (List.replicate (width - digits.length) '0') ++ digits

/-- Date and time of day, with microseconds unless they are zero. -/
def dateTime (instant : Instant) : String :=
  let day := Day.ofCount (instant.micros / 86400000000)
  let rest := (instant.micros % 86400000000).toNat
  let seconds := rest / 1000000
  let fraction := rest % 1000000
  padded 4 day.year.toNat ++ "-" ++ padded 2 day.month ++ "-" ++ padded 2 day.day ++ "T"
    ++ padded 2 (seconds / 3600) ++ ":" ++ padded 2 (seconds / 60 % 60) ++ ":"
    ++ padded 2 (seconds % 60)
    ++ (if fraction = 0 then "" else "." ++ padded 6 fraction)

/-- Date and time with the offset of universal time. -/
def text (instant : Instant) : String :=
  instant.dateTime ++ "+00:00"

/-- Date and time with the letter of universal time. -/
def zuluText (instant : Instant) : String :=
  instant.dateTime ++ "Z"

end Instant

end Runbook

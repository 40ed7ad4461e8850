import DocMapper.Text

namespace DocMapper

/-! # Instants

The text of a moment given in milliseconds since the start of 1970: date, time of day and the
offset of universal time. The hour has no leading zero, and the fraction of a second has no more
digits than it needs, though at least one.
-/

namespace Instant

/-- Year, month and day of the day that lies `days` after the first of January 1970, in the
Gregorian calendar. Years are counted from March in eras of 400 years, so that the leap day ends
a year. -/
def civilDate (days : Int) : Int × Nat × Nat :=
  let shifted := days + 719468
  let era := shifted.fdiv 146097
  let dayOfEra := (shifted - era * 146097).toNat
  let yearOfEra := (dayOfEra - dayOfEra / 1460 + dayOfEra / 36524 - dayOfEra / 146096) / 365
  let dayOfYear := dayOfEra - (365 * yearOfEra + yearOfEra / 4 - yearOfEra / 100)
  let monthFromMarch := (5 * dayOfYear + 2) / 153
  let day := dayOfYear - (153 * monthFromMarch + 2) / 5 + 1
  let month := if monthFromMarch < 10 then monthFromMarch + 3 else monthFromMarch - 9
  let year : Int := yearOfEra + era * 400 + (if month ≤ 2 then 1 else 0)
  (year, month, day)

/-- The largest year, in absolute value, that has a calendar text. -/
def lastYear : Nat := 999999

/-- The fraction of a second: milliseconds without their trailing zeros. -/
def fractionText (millis : Nat) : String :=
  if millis % 100 = 0 then Text.padded 1 (millis / 100)
  else if millis % 10 = 0 then Text.padded 2 (millis / 10)
  else Text.padded 3 millis

/-- A year: four digits, and a sign when it is negative or has more than four. -/
def yearText (year : Int) : String :=
  let sign := if year < 0 then "-" else if 10000 ≤ year then "+" else ""
  sign ++ Text.padded 4 year.natAbs

/-- The text of an instant. One outside the calendar is given by its milliseconds. -/
def text (millis : Int) : String :=
  let days := millis.fdiv 86400000
  let ofDay := (millis - days * 86400000).toNat
  let (year, month, day) := civilDate days
  if lastYear < year.natAbs then toString millis
  else
    let date := yearText year ++ "-" ++ Text.padded 2 month ++ "-" ++ Text.padded 2 day
    let time := Text.padded 1 (ofDay / 3600000) ++ ":" ++ Text.padded 2 (ofDay / 60000 % 60) ++
      ":" ++ Text.padded 2 (ofDay / 1000 % 60) ++ "." ++ fractionText (ofDay % 1000)
    date ++ " " ++ time ++ " +00:00:00"

end Instant

end DocMapper

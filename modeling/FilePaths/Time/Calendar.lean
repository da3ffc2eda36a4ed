import FilePaths.Text.Basic
import FilePaths.Time.Instant

/-!
# Calendar dates

The day, month and year of a moment in the proleptic Gregorian calendar, and the text of a
moment in the Internet date format, in universal time.
-/

namespace FilePaths

/-- A day of the Gregorian calendar, extended to all years. -/
structure Date where
  /-- The year, with a year zero before the year one. -/
  year : Int
  /-- The month, from one. -/
  month : Nat
  /-- The day of the month, from one. -/
  day : Nat
  deriving DecidableEq, Repr

namespace Date

/-- The date of a day counted from the first of January 1970.  Years are counted from March, so
that the leap day is the last day of its year, and in eras of 400 years, which all have the same
number of days. -/
def ofDays (days : Int) : Date :=
  let shifted := days + 719468
  let era := shifted.fdiv 146097
  let dayOfEra := (shifted.fmod 146097).toNat
  let yearOfEra := (dayOfEra - dayOfEra / 1460 + dayOfEra / 36524 - dayOfEra / 146096) / 365
  let dayOfYear := dayOfEra - (365 * yearOfEra + yearOfEra / 4 - yearOfEra / 100)
  let marchMonth := (5 * dayOfYear + 2) / 153
  let day := dayOfYear - (153 * marchMonth + 2) / 5 + 1
  let month := if marchMonth < 10 then marchMonth + 3 else marchMonth - 9
  let year := era * 400 + yearOfEra + (if month ≤ 2 then 1 else 0)
  ⟨year, month, day⟩

/-- A year with four digits; one that needs more, or lies before the year zero, has a sign. -/
def yearText (year : Int) : Text :=
  let digits := Text.padZero 4 (Text.digits 10 year.natAbs)
  if year < 0 then '-' :: digits
  else if year ≤ 9999 then digits
  else '+' :: digits

end Date

namespace Instant

/-- A number with two digits. -/
def twoDigits (number : Nat) : Text :=
  Text.padZero 2 (Text.digits 10 number)

/-- The fraction of a second with the fewest of zero, three, six or nine digits that lose
nothing. -/
def fractionText (nanos : Nat) : Text :=
  if nanos = 0 then []
  else if nanos % 1000000 = 0 then '.' :: Text.padZero 3 (Text.digits 10 (nanos / 1000000))
  else if nanos % 1000 = 0 then '.' :: Text.padZero 6 (Text.digits 10 (nanos / 1000))
  else '.' :: Text.padZero 9 (Text.digits 10 nanos)

/-- A moment in the Internet date format, in universal time. -/
def toText (instant : Instant) : Text :=
  let days := instant.seconds.toInt.fdiv 86400
  let second := (instant.seconds.toInt.fmod 86400).toNat
  let date := Date.ofDays days
  Date.yearText date.year ++ '-' :: twoDigits date.month ++ '-' :: twoDigits date.day ++
    'T' :: twoDigits (second / 3600) ++ ':' :: twoDigits (second / 60 % 60) ++
    ':' :: twoDigits (second % 60) ++ fractionText instant.nanos.val ++
    ['+', '0', '0', ':', '0', '0']

end Instant
end FilePaths

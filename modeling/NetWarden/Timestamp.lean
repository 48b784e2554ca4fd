import NetWarden.Text.Numeral

/-!
# Timestamps

A point of time as reports show it: date and time of day in universal time. The date of a day is
found from the days since the start of an era of four hundred years, whose first day is the first of
March, so that the day that some years have more is the last of its year.
-/

namespace NetWarden

/-- A number with zeros in front up to a width. -/
def zeroPadded (width n : Nat) : String :=
  let shown := Text.digits n
  String.ofList (List.replicate (width - shown.length) '0') ++ shown

/-- A date. -/
structure Date where
  /-- The year. -/
  year : Nat
  /-- The month, counted from one. -/
  month : Nat
  /-- The day of the month, counted from one. -/
  day : Nat
deriving DecidableEq, Repr

/-- The days of an era of four hundred years. -/
def daysPerEra : Nat := 146097

/-- The days from the first of March of the year 0 to the first of January 1970. -/
def epochDay : Nat := 719468

/-- The date of a day, counted from the first of January 1970. -/
def Date.ofDay (n : Nat) : Date :=
  let days := n + epochDay
  let inEra := days % daysPerEra
  let yearOfEra := (inEra - inEra / 1460 + inEra / 36524 - inEra / 146096) / 365
  let inYear := inEra - (365 * yearOfEra + yearOfEra / 4 - yearOfEra / 100)
  let march := (5 * inYear + 2) / 153
  let month := if march < 10 then march + 3 else march - 9
  let year := yearOfEra + days / daysPerEra * 400
  { year := if month ≤ 2 then year + 1 else year
    month
    day := inYear - (153 * march + 2) / 5 + 1 }

/-- The point of time that is so many hundredths of a second after the start of 1970. -/
def timestamp (hundredths : Nat) : String :=
  let seconds := hundredths / 100
  let date := Date.ofDay (seconds / 86400)
  zeroPadded 4 date.year ++ "-" ++ zeroPadded 2 date.month ++ "-" ++ zeroPadded 2 date.day ++ "T" ++
    zeroPadded 2 (seconds / 3600 % 24) ++ ":" ++ zeroPadded 2 (seconds / 60 % 60) ++ ":" ++
    zeroPadded 2 (seconds % 60) ++ "." ++ zeroPadded 2 (hundredths % 100) ++ "Z"

example : Date.ofDay 0 = ⟨1970, 1, 1⟩ := by decide

example : Date.ofDay 11016 = ⟨2000, 2, 29⟩ := by decide

example : Date.ofDay 20148 = ⟨2025, 3, 1⟩ := by decide

end NetWarden

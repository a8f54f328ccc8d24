/-
# `Report.Date` — days as calendar dates

Days are counted from 1970-01-01; dates are those of the Gregorian calendar,
carried on in both directions.  A year is counted from March on, so that the
leap day is its last, and 400 years always have the same number of days.
-/
import Columnar.Text.Class

namespace Columnar.Report

structure Date where
  year : Int
  month : Nat
  day : Nat
deriving DecidableEq, Repr

namespace Date

/-- Days of 400 years. -/
def eraDays : Nat := 146097

/-- The date of a day. -/
def ofDays (days : Int) : Date :=
  let shifted := days + 719468
  let era := shifted.fdiv eraDays
  let inEra := (shifted.fmod eraDays).toNat
  let yearOfEra := (inEra - inEra / 1460 + inEra / 36524 - inEra / 146096) / 365
  let inYear := inEra - (365 * yearOfEra + yearOfEra / 4 - yearOfEra / 100)
  let fromMarch := (5 * inYear + 2) / 153
  let month := if fromMarch < 10 then fromMarch + 3 else fromMarch - 9
  { year := yearOfEra + era * 400 + if month ≤ 2 then 1 else 0
    month := month
    day := inYear - (153 * fromMarch + 2) / 5 + 1 }

/-- Years that can be shown. -/
def hasYear (d : Date) : Bool := -262143 ≤ d.year && d.year ≤ 262142

/-- At least `width` digits. -/
def digits (width n : Nat) : String :=
  let ds := toString n
  String.ofList (List.replicate (width - ds.length) '0') ++ ds

/-- The date as year, month and day.  Years of four digits have no sign. -/
def write (d : Date) : String :=
  let year :=
    if 0 ≤ d.year && d.year ≤ 9999 then digits 4 d.year.toNat
    else (if d.year < 0 then "-" else "+") ++ digits 4 d.year.natAbs
  year ++ "-" ++ digits 2 d.month ++ "-" ++ digits 2 d.day

end Date

end Columnar.Report

import OpeningTimes.Calendar.Month
import OpeningTimes.Text.Numeral

/-!
Selectors over the year: spans of years, spans of dates, and spans of numbered weeks, each with
its text in the grammar.
-/

namespace OpeningTimes

/-- A year or a span of years, of which only every `interval`-th may count. -/
structure YearRange where
  start : UInt16
  stop : Option UInt16 := none
  interval : Option UInt16 := none
deriving DecidableEq, Repr

/-- A month, or a day of a month. -/
structure MonthDay where
  month : Month
  day : Option UInt8 := none
deriving DecidableEq, Repr

structure DateRange where
  start : MonthDay
  stop : Option MonthDay := none
deriving DecidableEq, Repr

/-- A numbered week or a span of them, of which only every `interval`-th may count. -/
structure WeekRange where
  start : UInt8
  stop : Option UInt8 := none
  interval : Option UInt8 := none
deriving DecidableEq, Repr

/-- The text of an optional part, which is empty when the part is absent. -/
def optionalText (part : Option α) (text : α → String) : String :=
  match part with
  | none => ""
  | some value => text value

/-- Years are written `2020`, `2020-2025` or `2020-2030/2`. -/
def YearRange.text (range : YearRange) : String :=
  toString range.start.toNat
    ++ optionalText range.stop (fun stop => "-" ++ toString stop.toNat)
    ++ optionalText range.interval (fun interval => "/" ++ toString interval.toNat)

/-- A month is written `Dec`, a day of it `Dec 24`. -/
def MonthDay.text (date : MonthDay) : String :=
  date.month.name ++ optionalText date.day (fun day => " " ++ Text.twoDigits day.toNat)

/-- The second end of a span of dates.  Between two days of one month the name of the month is
not repeated. -/
def MonthDay.stopText (start stop : MonthDay) : String :=
  match start.day, stop.day with
  | some _, some day =>
      if stop.month = start.month then Text.twoDigits day.toNat else stop.text
  | _, _ => stop.text

/-- Dates are written `Jan-Mar`, `Dec 24-26` or `Dec 24-Jan 02`. -/
def DateRange.text (range : DateRange) : String :=
  range.start.text
    ++ optionalText range.stop (fun stop => "-" ++ MonthDay.stopText range.start stop)

/-- Weeks are written `01`, `01-10` or `01-10/2`, without the keyword that introduces them. -/
def WeekRange.text (range : WeekRange) : String :=
  Text.twoDigits range.start.toNat
    ++ optionalText range.stop (fun stop => "-" ++ Text.twoDigits stop.toNat)
    ++ optionalText range.interval (fun interval => "/" ++ toString interval.toNat)

end OpeningTimes

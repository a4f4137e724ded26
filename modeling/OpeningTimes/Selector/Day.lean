import OpeningTimes.Calendar.Weekday
import OpeningTimes.Selector.Date

/-!
Selectors of days: holidays, possibly shifted by some days, and days of the week, possibly
limited to some occurrences within the month.
-/

namespace OpeningTimes

inductive HolidayKind where
  | publicHoliday
  | schoolHoliday
deriving DecidableEq, Repr

def HolidayKind.abbreviation : HolidayKind → String
  | .publicHoliday => "PH"
  | .schoolHoliday => "SH"

/-- The holidays of a kind, or the days that lie a number of days after or before them. -/
structure Holiday where
  kind : HolidayKind
  offset : Int16 := 0
deriving DecidableEq, Repr

/-- A day of the week or a span of days.  The occurrences within the month that count are listed
in `nth`, from its end when negative; an empty list means all. -/
structure DayRange where
  start : Weekday
  stop : Option Weekday := none
  nth : List Int8 := []
deriving DecidableEq, Repr

/-- A shift by a number of days with its sign, and nothing for no shift. -/
def offsetText (offset : Int) : String :=
  if offset = 0 then ""
  else if offset = 1 ∨ offset = -1 then " " ++ Text.withSign offset ++ " day"
  else " " ++ Text.withSign offset ++ " days"

/-- Holidays are written `PH`, `SH`, `PH +1 day` or `PH -2 days`. -/
def Holiday.text (holiday : Holiday) : String :=
  holiday.kind.abbreviation ++ offsetText holiday.offset.toInt

/-- The occurrences within the month are written `[1,-1]`, and not at all when all count. -/
def nthText (nth : List Int8) : String :=
  if nth.isEmpty then ""
  else "[" ++ Text.commaList (nth.map (fun n => toString n.toInt)) ++ "]"

/-- Days are written `Mo`, `Mo-Fr` or `Su[1,-1]`. -/
def DayRange.text (range : DayRange) : String :=
  range.start.abbreviation
    ++ optionalText range.stop (fun stop => "-" ++ stop.abbreviation)
    ++ nthText range.nth

end OpeningTimes

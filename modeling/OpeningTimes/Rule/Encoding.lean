import OpeningTimes.Json.Value
import OpeningTimes.Rule.Basic

/-!
The JSON trees of rules and selectors.  Absent values and empty lists are left out; the kind of a
rule, whether it holds always, the shift of a holiday and the open end of a span of times are
always written.
-/

namespace OpeningTimes

namespace Json

/-- A member for a value that may be absent. -/
def optionalMember {α : Type} (key : String) (toJson : α → Json) (value : Option α) :
    List (String × Json) :=
  match value with
  | none => []
  | some value => [(key, toJson value)]

/-- A member for a list that may be empty. -/
def listMember {α : Type} (key : String) (toJson : α → Json) (items : List α) :
    List (String × Json) :=
  if items.isEmpty then [] else [(key, .list (items.map toJson))]

end Json

def byteJson (n : UInt8) : Json :=
  .integer n.toNat

def wordJson (n : UInt16) : Json :=
  .integer n.toNat

def YearRange.toJson (range : YearRange) : Json :=
  .object <|
    [("start", wordJson range.start)]
      ++ Json.optionalMember "end" wordJson range.stop
      ++ Json.optionalMember "interval" wordJson range.interval

def Month.toJson (month : Month) : Json :=
  .string month.name

def MonthDay.toJson (date : MonthDay) : Json :=
  .object ([("month", date.month.toJson)] ++ Json.optionalMember "day" byteJson date.day)

def DateRange.toJson (range : DateRange) : Json :=
  .object <|
    [("start", range.start.toJson)] ++ Json.optionalMember "end" MonthDay.toJson range.stop

def WeekRange.toJson (range : WeekRange) : Json :=
  .object <|
    [("start", byteJson range.start)]
      ++ Json.optionalMember "end" byteJson range.stop
      ++ Json.optionalMember "interval" byteJson range.interval

def HolidayKind.toJson (kind : HolidayKind) : Json :=
  .string kind.abbreviation

def Holiday.toJson (holiday : Holiday) : Json :=
  .object [("kind", holiday.kind.toJson), ("offset_days", .integer holiday.offset.toInt)]

def Weekday.toJson (day : Weekday) : Json :=
  .string day.abbreviation

def DayRange.toJson (range : DayRange) : Json :=
  .object <|
    [("start", range.start.toJson)]
      ++ Json.optionalMember "end" Weekday.toJson range.stop
      ++ Json.listMember "nth" (fun n => .integer n.toInt) range.nth

def TimeSpan.toJson (span : TimeSpan) : Json :=
  .object <|
    [("start", wordJson span.start)]
      ++ Json.optionalMember "end" wordJson span.stop
      ++ [("open_ended", .boolean span.openEnded)]
      ++ Json.optionalMember "interval" wordJson span.interval

def CombinationKind.toJson (kind : CombinationKind) : Json :=
  .string kind.name

def Modifier.toJson (modifier : Modifier) : Json :=
  .string modifier.text

/-- The tree of a rule, with its members in the order of the grammar. -/
def Rule.toJson (rule : Rule) : Json :=
  .object <|
    [("kind", rule.kind.toJson), ("twenty_four_seven", .boolean rule.always)]
      ++ Json.listMember "years" YearRange.toJson rule.years
      ++ Json.listMember "dates" DateRange.toJson rule.dates
      ++ Json.listMember "weeks" WeekRange.toJson rule.weeks
      ++ Json.listMember "holidays" Holiday.toJson rule.holidays
      ++ Json.listMember "days" DayRange.toJson rule.days
      ++ Json.listMember "times" TimeSpan.toJson rule.times
      ++ Json.optionalMember "modifier" Modifier.toJson rule.modifier
      ++ Json.optionalMember "comment" .string rule.comment

def rulesJson (rules : List Rule) : Json :=
  .list (rules.map Rule.toJson)

def groupsJson (groups : List (List Rule)) : Json :=
  .list (groups.map rulesJson)

end OpeningTimes

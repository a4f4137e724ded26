import OpeningTimes.Calendar.Weekday
import OpeningTimes.Json.Message

/-!
What can go wrong when text from outside is turned into rules, months or weekdays.  Grouping and
joining never fail.
-/

namespace OpeningTimes

inductive Error where
  /-- It is not the JSON of the values that were asked for. -/
  | json (refusal : Json.Refusal)
  /-- It is not the name of a month. -/
  | invalidMonth (name : String)
  /-- It is not an abbreviation of a weekday. -/
  | invalidWeekday (name : String)
deriving DecidableEq, Repr

def Error.message : Error → String
  | .json refusal => "JSON parse error: " ++ refusal.text
  | .invalidMonth name => "Invalid month: " ++ name
  | .invalidWeekday name => Weekday.report name

end OpeningTimes

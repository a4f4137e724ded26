import OpeningTimes.Rule.Basic

/-!
The names under which enumerated values stand in JSON.
-/

namespace OpeningTimes

def kindNames : List (String × CombinationKind) :=
  [CombinationKind.normal, .additive, .fallback].map (fun kind => (kind.name, kind))

def modifierNames : List (String × Modifier) :=
  [Modifier.opened, .closed, .off, .unknown].map (fun modifier => (modifier.text, modifier))

def holidayKindNames : List (String × HolidayKind) :=
  [HolidayKind.publicHoliday, .schoolHoliday].map (fun kind => (kind.abbreviation, kind))

def monthNames : List (String × Month) :=
  Month.all.map (fun month => (month.name, month))

end OpeningTimes

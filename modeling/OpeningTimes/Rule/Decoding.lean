import OpeningTimes.Json.Record
import OpeningTimes.Json.Report
import OpeningTimes.Rule.Names

/-!
Decoders of rules and selectors.  Weekdays are written as strings and looked up only after the
whole span of days has been read, so a bad weekday is reported for the span and not for the
string.
-/

namespace OpeningTimes

open Json (Decoder Fault Fields Values)

def YearRange.fields : Fields [UInt16, Option UInt16, Option UInt16] :=
  .cons ⟨"start", Decoder.uint16, none⟩ <|
  .cons ⟨"end", Decoder.optional Decoder.uint16, some none⟩ <|
  .cons ⟨"interval", Decoder.optional Decoder.uint16, some none⟩ .nil

def YearRange.decoder : Decoder YearRange :=
  Decoder.map (fun (start, stop, interval, ()) => ⟨start, stop, interval⟩)
    (Decoder.record "YearRange" YearRange.fields)

def Month.decoder : Decoder Month :=
  Decoder.oneOf monthNames

def MonthDay.fields : Fields [Month, Option UInt8] :=
  .cons ⟨"month", Month.decoder, none⟩ <|
  .cons ⟨"day", Decoder.optional Decoder.uint8, some none⟩ .nil

def MonthDay.decoder : Decoder MonthDay :=
  Decoder.map (fun (month, day, ()) => ⟨month, day⟩)
    (Decoder.record "MonthDay" MonthDay.fields)

def DateRange.fields : Fields [MonthDay, Option MonthDay] :=
  .cons ⟨"start", MonthDay.decoder, none⟩ <|
  .cons ⟨"end", Decoder.optional MonthDay.decoder, some none⟩ .nil

def DateRange.decoder : Decoder DateRange :=
  Decoder.map (fun (start, stop, ()) => ⟨start, stop⟩)
    (Decoder.record "DateRange" DateRange.fields)

def WeekRange.fields : Fields [UInt8, Option UInt8, Option UInt8] :=
  .cons ⟨"start", Decoder.uint8, none⟩ <|
  .cons ⟨"end", Decoder.optional Decoder.uint8, some none⟩ <|
  .cons ⟨"interval", Decoder.optional Decoder.uint8, some none⟩ .nil

def WeekRange.decoder : Decoder WeekRange :=
  Decoder.map (fun (start, stop, interval, ()) => ⟨start, stop, interval⟩)
    (Decoder.record "WeekRange" WeekRange.fields)

def HolidayKind.decoder : Decoder HolidayKind :=
  Decoder.oneOf holidayKindNames

def Holiday.fields : Fields [HolidayKind, Int16] :=
  .cons ⟨"kind", HolidayKind.decoder, none⟩ <|
  .cons ⟨"offset_days", Decoder.int16, some 0⟩ .nil

def Holiday.decoder : Decoder Holiday :=
  Decoder.map (fun (kind, offset, ()) => ⟨kind, offset⟩)
    (Decoder.record "Holiday" Holiday.fields)

/-- The fields of a span of days, in which weekdays are still strings. -/
def DayRange.fields : Fields [String, Option String, List Int8] :=
  .cons ⟨"start", Decoder.string, none⟩ <|
  .cons ⟨"end", Decoder.optional Decoder.string, some none⟩ <|
  .cons ⟨"nth", Decoder.list Decoder.int8, some []⟩ .nil

/-- Looks a weekday up, when `rest` is left. -/
def weekdayNamed (name : String) (rest : List Char) : Except Fault Weekday :=
  match Weekday.ofAbbreviation? name with
  | some day => .ok day
  | none => .error (Fault.refused (Weekday.report name) rest)

/-- Looks an optional weekday up, when `rest` is left. -/
def optionalWeekdayNamed (name : Option String) (rest : List Char) :
    Except Fault (Option Weekday) :=
  match name with
  | none => .ok none
  | some name => do
      let day ← weekdayNamed name rest
      .ok (some day)

/-- Reads a span of days.  Its start is looked up before its end. -/
def DayRange.decoder : Decoder DayRange := fun s => do
  let ((start, stop, nth, ()), rest) ← Decoder.record "RawWeekDayRange" DayRange.fields s
  let start ← weekdayNamed start rest
  let stop ← optionalWeekdayNamed stop rest
  .ok (⟨start, stop, nth⟩, rest)

def TimeSpan.fields : Fields [UInt16, Option UInt16, Bool, Option UInt16] :=
  .cons ⟨"start", Decoder.uint16, none⟩ <|
  .cons ⟨"end", Decoder.optional Decoder.uint16, some none⟩ <|
  .cons ⟨"open_ended", Decoder.boolean, some false⟩ <|
  .cons ⟨"interval", Decoder.optional Decoder.uint16, some none⟩ .nil

def TimeSpan.decoder : Decoder TimeSpan :=
  Decoder.map
    (fun (start, stop, openEnded, interval, ()) => ⟨start, stop, openEnded, interval⟩)
    (Decoder.record "TimeSpan" TimeSpan.fields)

def CombinationKind.decoder : Decoder CombinationKind :=
  Decoder.oneOf kindNames

def Modifier.decoder : Decoder Modifier :=
  Decoder.oneOf modifierNames

/-- The fields of a rule.  All of them may be left out. -/
def Rule.fields :
    Fields [CombinationKind, Bool, List YearRange, List DateRange, List WeekRange, List Holiday,
      List DayRange, List TimeSpan, Option Modifier, Option String] :=
  .cons ⟨"kind", CombinationKind.decoder, some .normal⟩ <|
  .cons ⟨"twenty_four_seven", Decoder.boolean, some false⟩ <|
  .cons ⟨"years", Decoder.list YearRange.decoder, some []⟩ <|
  .cons ⟨"dates", Decoder.list DateRange.decoder, some []⟩ <|
  .cons ⟨"weeks", Decoder.list WeekRange.decoder, some []⟩ <|
  .cons ⟨"holidays", Decoder.list Holiday.decoder, some []⟩ <|
  .cons ⟨"days", Decoder.list DayRange.decoder, some []⟩ <|
  .cons ⟨"times", Decoder.list TimeSpan.decoder, some []⟩ <|
  .cons ⟨"modifier", Decoder.optional Modifier.decoder, some none⟩ <|
  .cons ⟨"comment", Decoder.optional Decoder.string, some none⟩ .nil

def Rule.decoder : Decoder Rule :=
  Decoder.map
    (fun (kind, always, years, dates, weeks, holidays, days, times, modifier, comment, ()) =>
      ⟨kind, always, years, dates, weeks, holidays, days, times, modifier, comment⟩)
    (Decoder.record "Rule" Rule.fields)

end OpeningTimes

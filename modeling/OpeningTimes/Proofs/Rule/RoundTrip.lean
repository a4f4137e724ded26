import OpeningTimes.Proofs.Json.Trees
import OpeningTimes.Proofs.Rule.Writing

/-!
Reading written rules.  Every layout of the tree of a selector or a rule writes it, so every
selector and every rule is read back from its tree and nothing of it is lost in between.
-/

namespace OpeningTimes

open Json

theorem laidAs_byteJson (n : UInt8) : LaidAs (byteJson n) (ByteText n) :=
  laidAs_integer n.toNat

theorem laidAs_wordJson (n : UInt16) : LaidAs (wordJson n) (WordText n) :=
  laidAs_integer n.toNat

theorem YearRange.laidAs (range : YearRange) : LaidAs range.toJson range.Written := by
  have hshown : Shown range.slots
      (("start", wordJson range.start) :: (optionalMember "end" wordJson range.stop
        ++ (optionalMember "interval" wordJson range.interval ++ []))) :=
    shown_required "start" (laidAs_wordJson range.start) <|
      shown_optionalMember "end" laidAs_wordJson range.stop <|
      shown_optionalMember "interval" laidAs_wordJson range.interval .nil
  have hobject := laidAs_object hshown (by simp [slots, Slot.required_name, Slot.defaulted_name])
  simpa [YearRange.toJson, YearRange.Written] using hobject

theorem Month.laidAs (month : Month) : LaidAs month.toJson month.Written :=
  laidAs_string month.name

theorem MonthDay.laidAs (date : MonthDay) : LaidAs date.toJson date.Written := by
  have hshown : Shown date.slots
      (("month", date.month.toJson) :: (optionalMember "day" byteJson date.day ++ [])) :=
    shown_required "month" date.month.laidAs <|
      shown_optionalMember "day" laidAs_byteJson date.day .nil
  have hobject := laidAs_object hshown (by simp [slots, Slot.required_name, Slot.defaulted_name])
  simpa [MonthDay.toJson, MonthDay.Written] using hobject

theorem DateRange.laidAs (range : DateRange) : LaidAs range.toJson range.Written := by
  have hshown : Shown range.slots
      (("start", range.start.toJson) :: (optionalMember "end" MonthDay.toJson range.stop ++ [])) :=
    shown_required "start" range.start.laidAs <|
      shown_optionalMember "end" MonthDay.laidAs range.stop .nil
  have hobject := laidAs_object hshown (by simp [slots, Slot.required_name, Slot.defaulted_name])
  simpa [DateRange.toJson, DateRange.Written] using hobject

theorem WeekRange.laidAs (range : WeekRange) : LaidAs range.toJson range.Written := by
  have hshown : Shown range.slots
      (("start", byteJson range.start) :: (optionalMember "end" byteJson range.stop
        ++ (optionalMember "interval" byteJson range.interval ++ []))) :=
    shown_required "start" (laidAs_byteJson range.start) <|
      shown_optionalMember "end" laidAs_byteJson range.stop <|
      shown_optionalMember "interval" laidAs_byteJson range.interval .nil
  have hobject := laidAs_object hshown (by simp [slots, Slot.required_name, Slot.defaulted_name])
  simpa [WeekRange.toJson, WeekRange.Written] using hobject

theorem HolidayKind.laidAs (kind : HolidayKind) : LaidAs kind.toJson kind.Written :=
  laidAs_string kind.abbreviation

theorem Holiday.laidAs (holiday : Holiday) : LaidAs holiday.toJson holiday.Written := by
  have hshown : Shown holiday.slots
      [("kind", holiday.kind.toJson), ("offset_days", .integer holiday.offset.toInt)] :=
    shown_required "kind" holiday.kind.laidAs <|
      shown_defaulted "offset_days" (laidAs_integer holiday.offset.toInt) .nil
  exact laidAs_object hshown (by simp [slots, Slot.required_name, Slot.defaulted_name])

theorem Weekday.ofAbbreviation?_abbreviation (day : Weekday) :
    ofAbbreviation? day.abbreviation = some day := by
  cases day <;> decide

theorem optionalMember_abbreviation (key : String) (day : Option Weekday) :
    optionalMember key Weekday.toJson day
      = optionalMember key .string (day.map Weekday.abbreviation) := by
  cases day <;> rfl

/-- Weekdays are written under their English abbreviations, which are names of theirs. -/
theorem DayRange.laidAs (range : DayRange) : LaidAs range.toJson range.Written := by
  have hshown : Shown
      (slots range.start.abbreviation (range.stop.map Weekday.abbreviation) range.nth)
      (("start", range.start.toJson)
        :: (optionalMember "end" .string (range.stop.map Weekday.abbreviation)
        ++ (listMember "nth" (fun n : Int8 => .integer n.toInt) range.nth ++ []))) :=
    shown_required "start" (laidAs_string range.start.abbreviation) <|
      shown_optionalMember "end" laidAs_string (range.stop.map Weekday.abbreviation) <|
      shown_listMember "nth" (fun n : Int8 => laidAs_integer n.toInt) range.nth .nil
  have hstop : Option.Rel (fun name day => Weekday.ofAbbreviation? name = some day)
      (range.stop.map Weekday.abbreviation) range.stop := by
    cases range.stop with
    | none => exact .none
    | some day => exact .some day.ofAbbreviation?_abbreviation
  intro text htext
  refine .named range.start.ofAbbreviation?_abbreviation hstop ?_
  refine laidAs_object hshown (by simp [slots, Slot.required_name, Slot.defaulted_name]) text ?_
  simpa [DayRange.toJson, optionalMember_abbreviation] using htext

theorem TimeSpan.laidAs (span : TimeSpan) : LaidAs span.toJson span.Written := by
  have hshown : Shown span.slots
      (("start", wordJson span.start) :: (optionalMember "end" wordJson span.stop
        ++ (("open_ended", .boolean span.openEnded)
          :: (optionalMember "interval" wordJson span.interval ++ [])))) :=
    shown_required "start" (laidAs_wordJson span.start) <|
      shown_optionalMember "end" laidAs_wordJson span.stop <|
      shown_defaulted "open_ended" (laidAs_boolean span.openEnded) <|
      shown_optionalMember "interval" laidAs_wordJson span.interval .nil
  have hobject := laidAs_object hshown (by simp [slots, Slot.required_name, Slot.defaulted_name])
  simpa [TimeSpan.toJson, TimeSpan.Written] using hobject

theorem CombinationKind.laidAs (kind : CombinationKind) : LaidAs kind.toJson kind.Written :=
  laidAs_string kind.name

theorem Modifier.laidAs (modifier : Modifier) : LaidAs modifier.toJson modifier.Written :=
  laidAs_string modifier.text

theorem Rule.laidAs (rule : Rule) : LaidAs rule.toJson rule.Written := by
  have hshown : Shown rule.slots
      (("kind", rule.kind.toJson) :: ("twenty_four_seven", .boolean rule.always)
        :: (listMember "years" YearRange.toJson rule.years
        ++ (listMember "dates" DateRange.toJson rule.dates
        ++ (listMember "weeks" WeekRange.toJson rule.weeks
        ++ (listMember "holidays" Holiday.toJson rule.holidays
        ++ (listMember "days" DayRange.toJson rule.days
        ++ (listMember "times" TimeSpan.toJson rule.times
        ++ (optionalMember "modifier" Modifier.toJson rule.modifier
        ++ (optionalMember "comment" .string rule.comment ++ []))))))))) :=
    shown_defaulted "kind" rule.kind.laidAs <|
      shown_defaulted "twenty_four_seven" (laidAs_boolean rule.always) <|
      shown_listMember "years" YearRange.laidAs rule.years <|
      shown_listMember "dates" DateRange.laidAs rule.dates <|
      shown_listMember "weeks" WeekRange.laidAs rule.weeks <|
      shown_listMember "holidays" Holiday.laidAs rule.holidays <|
      shown_listMember "days" DayRange.laidAs rule.days <|
      shown_listMember "times" TimeSpan.laidAs rule.times <|
      shown_optionalMember "modifier" Modifier.laidAs rule.modifier <|
      shown_optionalMember "comment" laidAs_string rule.comment .nil
  have hobject := laidAs_object hshown (by simp [slots, Slot.defaulted_name])
  simpa [Rule.toJson, Rule.Written] using hobject

/-- All lists of rules can be written: every layout of their tree does so. -/
theorem rulesWritten_of_laid (rules : List Rule) {text : String}
    (hlaid : Laid (rulesJson rules) text.toList) : RulesWritten rules text :=
  ⟨[], text.toList, [], allBlank_nil, laidAs_list Rule.laidAs rules text.toList hlaid,
    allBlank_nil, by simp⟩

/-- Rules are loaded from any layout of their tree. -/
theorem rulesOfText_of_laid (rules : List Rule) {text : String}
    (hlaid : Laid (rulesJson rules) text.toList) : rulesOfText text = .ok rules := by
  obtain ⟨before, content, after, hbefore, hcontent, hafter, htext⟩ :=
    rulesWritten_of_laid rules hlaid
  exact rulesOfText_of_listText hcontent hbefore hafter htext

/-- Writing rules and loading the text gives the rules back. -/
theorem rulesOfText_compact_rulesJson (rules : List Rule) :
    rulesOfText (rulesJson rules).compact = .ok rules :=
  rulesOfText_of_laid rules (laid_compact (rulesJson rules))

end OpeningTimes

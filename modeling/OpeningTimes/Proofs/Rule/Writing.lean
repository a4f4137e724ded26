import OpeningTimes.Loading
import OpeningTimes.Proofs.Json.Writings

/-!
Ways to write rules.  A list of rules may be written with any blanks between its tokens and any
spelling of its strings, and each of its records as an object or as a list, with fields in any
order, defaults left out or not, and members of other names in between.  Loading depends only on
the rules and not on how they are written.
-/

namespace OpeningTimes

open Json

def YearRange.slots (range : YearRange) : List Slot :=
  [.required "start" WordText range.start,
   .defaulted "end" (OptionText WordText) range.stop none,
   .defaulted "interval" (OptionText WordText) range.interval none]

def YearRange.Written (range : YearRange) : Texts :=
  RecordText range.slots

def Month.Written (month : Month) : Texts :=
  Spelled month.name

def MonthDay.slots (date : MonthDay) : List Slot :=
  [.required "month" Month.Written date.month,
   .defaulted "day" (OptionText ByteText) date.day none]

def MonthDay.Written (date : MonthDay) : Texts :=
  RecordText date.slots

def DateRange.slots (range : DateRange) : List Slot :=
  [.required "start" MonthDay.Written range.start,
   .defaulted "end" (OptionText MonthDay.Written) range.stop none]

def DateRange.Written (range : DateRange) : Texts :=
  RecordText range.slots

def WeekRange.slots (range : WeekRange) : List Slot :=
  [.required "start" ByteText range.start,
   .defaulted "end" (OptionText ByteText) range.stop none,
   .defaulted "interval" (OptionText ByteText) range.interval none]

def WeekRange.Written (range : WeekRange) : Texts :=
  RecordText range.slots

def HolidayKind.Written (kind : HolidayKind) : Texts :=
  Spelled kind.abbreviation

def Holiday.slots (holiday : Holiday) : List Slot :=
  [.required "kind" HolidayKind.Written holiday.kind,
   .defaulted "offset_days" (fun n : Int16 => IntegerText n.toInt) holiday.offset 0]

def Holiday.Written (holiday : Holiday) : Texts :=
  RecordText holiday.slots

/-- The fields of a span of days, with the names of its weekdays. -/
def DayRange.slots (start : String) (stop : Option String) (nth : List Int8) : List Slot :=
  [.required "start" Spelled start,
   .defaulted "end" (OptionText Spelled) stop none,
   .defaulted "nth" (ListText fun n : Int8 => IntegerText n.toInt) nth []]

/-- The text writes the span of days, under any names that its weekdays have. -/
inductive DayRange.Written (range : DayRange) : Texts
  | named {start : String} {stop : Option String} {text : List Char}
      (hstart : Weekday.ofAbbreviation? start = some range.start)
      (hstop : Option.Rel (fun name day => Weekday.ofAbbreviation? name = some day) stop range.stop)
      (htext : RecordText (slots start stop range.nth) text) : Written range text

def TimeSpan.slots (span : TimeSpan) : List Slot :=
  [.required "start" WordText span.start,
   .defaulted "end" (OptionText WordText) span.stop none,
   .defaulted "open_ended" BooleanText span.openEnded false,
   .defaulted "interval" (OptionText WordText) span.interval none]

def TimeSpan.Written (span : TimeSpan) : Texts :=
  RecordText span.slots

def CombinationKind.Written (kind : CombinationKind) : Texts :=
  Spelled kind.name

def Modifier.Written (modifier : Modifier) : Texts :=
  Spelled modifier.text

def Rule.slots (rule : Rule) : List Slot :=
  [.defaulted "kind" CombinationKind.Written rule.kind .normal,
   .defaulted "twenty_four_seven" BooleanText rule.always false,
   .defaulted "years" (ListText YearRange.Written) rule.years [],
   .defaulted "dates" (ListText DateRange.Written) rule.dates [],
   .defaulted "weeks" (ListText WeekRange.Written) rule.weeks [],
   .defaulted "holidays" (ListText Holiday.Written) rule.holidays [],
   .defaulted "days" (ListText DayRange.Written) rule.days [],
   .defaulted "times" (ListText TimeSpan.Written) rule.times [],
   .defaulted "modifier" (OptionText Modifier.Written) rule.modifier none,
   .defaulted "comment" (OptionText Spelled) rule.comment none]

def Rule.Written (rule : Rule) : Texts :=
  RecordText rule.slots

/-- The whole text writes the rules, as one list with any blanks before and after it. -/
def RulesWritten (rules : List Rule) (text : String) : Prop :=
  ∃ before content after, AllBlank before ∧ ListText Rule.Written rules content ∧ AllBlank after ∧
    text.toList = before ++ (content ++ after)

theorem YearRange.understands : Understands YearRange.decoder YearRange.Written := by
  intro range text htext
  have hword := understands_uint16.optional neverNull_wordText
  have hfits : YearRange.fields.Fits range.slots (range.start, range.stop, range.interval, ()) :=
    fits_required understands_uint16 <|
      fits_defaulted hword rfl <| fits_defaulted hword rfl .nil
  exact (reads_recordText "YearRange" hfits (by decide) htext).map _

theorem Month.understands : Understands Month.decoder Month.Written :=
  understands_oneOf fun month => by cases month <;> decide

theorem MonthDay.understands : Understands MonthDay.decoder MonthDay.Written := by
  intro date text htext
  have hfits : MonthDay.fields.Fits date.slots (date.month, date.day, ()) :=
    fits_required Month.understands <|
      fits_defaulted (understands_uint8.optional neverNull_byteText) rfl .nil
  exact (reads_recordText "MonthDay" hfits (by decide) htext).map _

theorem DateRange.understands : Understands DateRange.decoder DateRange.Written := by
  intro range text htext
  have hstop := MonthDay.understands.optional (neverNull_recordText MonthDay.slots)
  have hfits : DateRange.fields.Fits range.slots (range.start, range.stop, ()) :=
    fits_required MonthDay.understands <| fits_defaulted hstop rfl .nil
  exact (reads_recordText "DateRange" hfits (by decide) htext).map _

theorem WeekRange.understands : Understands WeekRange.decoder WeekRange.Written := by
  intro range text htext
  have hbyte := understands_uint8.optional neverNull_byteText
  have hfits : WeekRange.fields.Fits range.slots (range.start, range.stop, range.interval, ()) :=
    fits_required understands_uint8 <|
      fits_defaulted hbyte rfl <| fits_defaulted hbyte rfl .nil
  exact (reads_recordText "WeekRange" hfits (by decide) htext).map _

theorem HolidayKind.understands : Understands HolidayKind.decoder HolidayKind.Written :=
  understands_oneOf fun kind => by cases kind <;> decide

theorem Holiday.understands : Understands Holiday.decoder Holiday.Written := by
  intro holiday text htext
  have hfits : Holiday.fields.Fits holiday.slots (holiday.kind, holiday.offset, ()) :=
    fits_required HolidayKind.understands <| fits_defaulted understands_int16 rfl .nil
  exact (reads_recordText "Holiday" hfits (by decide) htext).map _

/-- Weekdays are looked up after the record has been read, under the names that were written. -/
theorem weekdayNamed_of_some {name : String} {day : Weekday}
    (hname : Weekday.ofAbbreviation? name = some day) (rest : List Char) :
    weekdayNamed name rest = .ok day := by
  rw [weekdayNamed, hname]

theorem optionalWeekdayNamed_of_rel {name : Option String} {day : Option Weekday}
    (hname : Option.Rel (fun name day => Weekday.ofAbbreviation? name = some day) name day)
    (rest : List Char) : optionalWeekdayNamed name rest = .ok day := by
  cases hname with
  | none => rfl
  | some hname => simp [optionalWeekdayNamed, weekdayNamed_of_some hname, bind, Except.bind]

theorem DayRange.understands : Understands DayRange.decoder DayRange.Written := by
  intro range text htext
  obtain ⟨hstart, hstop, htext⟩ := htext
  rename_i start stop
  have hfits : DayRange.fields.Fits (slots start stop range.nth) (start, stop, range.nth, ()) :=
    fits_required understands_string <|
      fits_defaulted (understands_string.optional neverNull_spelled) rfl <|
        fits_defaulted understands_int8.list rfl .nil
  have hrecord := reads_recordText "RawWeekDayRange" hfits (by decide) htext
  refine ⟨hrecord.opens, ?_⟩
  intro blanks rest hblanks hends
  simp [DayRange.decoder, hrecord.reads blanks rest hblanks hends, weekdayNamed_of_some hstart,
    optionalWeekdayNamed_of_rel hstop, bind, Except.bind]

theorem TimeSpan.understands : Understands TimeSpan.decoder TimeSpan.Written := by
  intro span text htext
  have hword := understands_uint16.optional neverNull_wordText
  have hfits : TimeSpan.fields.Fits span.slots
      (span.start, span.stop, span.openEnded, span.interval, ()) :=
    fits_required understands_uint16 <|
      fits_defaulted hword rfl <|
      fits_defaulted understands_boolean rfl <| fits_defaulted hword rfl .nil
  exact (reads_recordText "TimeSpan" hfits (by decide) htext).map _

theorem CombinationKind.understands :
    Understands CombinationKind.decoder CombinationKind.Written :=
  understands_oneOf fun kind => by cases kind <;> decide

theorem Modifier.understands : Understands Modifier.decoder Modifier.Written :=
  understands_oneOf fun modifier => by cases modifier <;> decide

theorem Rule.understands : Understands Rule.decoder Rule.Written := by
  intro rule text htext
  have hmodifier := Modifier.understands.optional fun modifier => neverNull_spelled modifier.text
  have hcomment := understands_string.optional neverNull_spelled
  have hfits : Rule.fields.Fits rule.slots
      (rule.kind, rule.always, rule.years, rule.dates, rule.weeks, rule.holidays, rule.days,
        rule.times, rule.modifier, rule.comment, ()) :=
    fits_defaulted CombinationKind.understands rfl <|
      fits_defaulted understands_boolean rfl <|
      fits_defaulted YearRange.understands.list rfl <|
      fits_defaulted DateRange.understands.list rfl <|
      fits_defaulted WeekRange.understands.list rfl <|
      fits_defaulted Holiday.understands.list rfl <|
      fits_defaulted DayRange.understands.list rfl <|
      fits_defaulted TimeSpan.understands.list rfl <|
      fits_defaulted hmodifier rfl <| fits_defaulted hcomment rfl .nil
  exact (reads_recordText "Rule" hfits (by decide) htext).map _

/-- Rules that a text writes between blanks are loaded from it. -/
theorem rulesOfText_of_listText {rules : List Rule} {before content after : List Char}
    (hcontent : ListText Rule.Written rules content) (hbefore : AllBlank before)
    (hafter : AllBlank after) {text : String} (htext : text.toList = before ++ (content ++ after)) :
    rulesOfText text = .ok rules := by
  have hreads := Rule.understands.list rules content hcontent
  rw [rulesOfText, decodeText, decode_of_reads hreads hbefore hafter htext]

/-- Loading a text gives the rules that it writes, in whatever way it writes them. -/
theorem rulesOfText_of_written {rules : List Rule} {text : String}
    (hwritten : RulesWritten rules text) : rulesOfText text = .ok rules := by
  obtain ⟨before, content, after, hbefore, hcontent, hafter, htext⟩ := hwritten
  exact rulesOfText_of_listText hcontent hbefore hafter htext

/-- A rule with an unknown member, an escaped key and a span of days that is written as a list with
a German name, and after it a rule that is written as an empty list. -/
theorem rulesOfText_of_written_mixed :
    rulesOfText " [\x7b\"x\":[1e3], \"\\u006bind\":\"additive\",\"days\":[[\"DI\"]]\x7d,[]]" =
      .ok [{ kind := .additive, days := [⟨.tuesday, none, []⟩] }, {}] := by
  let rule : Rule := { kind := .additive, days := [⟨.tuesday, none, []⟩] }
  -- The unknown member is a list of one number.
  have hwhole : IsWhole ['1'] := ⟨⟨by simp, by simp [isDigit]⟩, by simp⟩
  have hexponent : IsExponent (some (false, ['3'])) ['e', '3'] :=
    .written (.inl rfl) .absent ⟨by simp, by simp [isDigit]⟩
  have hitems : Separated (fun _ => WellFormed) [()] ['1', 'e', '3'] :=
    .single (.number (.intro false hwhole .absent hexponent))
  have hforeign : Allowed rule.slots ("x", '[' :: (['1', 'e', '3'] ++ [']'])) :=
    .foreign (by simp [Rule.slots, Slot.defaulted_name]) (.list hitems)
  -- The first letter of its key is written by number.
  have hdigits : FourHex 'k'.toNat ['0', '0', '6', 'b'] :=
    .intro (i := 0) (j := 0) (k := 6) (l := 11) (by decide) (by decide) (by decide) (by decide)
  have hi : SpelledChar 'i' ['i'] := .plain ⟨by decide, by decide, by decide⟩
  have hn : SpelledChar 'n' ['n'] := .plain ⟨by decide, by decide, by decide⟩
  have hd : SpelledChar 'd' ['d'] := .plain ⟨by decide, by decide, by decide⟩
  have hkey : Spelled "kind" ['"', '\\', 'u', '0', '0', '6', 'b', 'i', 'n', 'd', '"'] :=
    ⟨[['\\', 'u', '0', '0', '6', 'b'], ['i'], ['n'], ['d']],
      .cons (.numbered hdigits) (.cons hi (.cons hn (.cons hd .nil))), rfl⟩
  have hkindSlot : Slot.defaulted "kind" CombinationKind.Written .additive .normal ∈
      rule.slots := by simp [rule, Rule.slots]
  have hkind : Allowed rule.slots ("kind", (stringText "additive").toList) :=
    .field hkindSlot (spelled_stringText "additive")
  -- The list of the span of days stops after its start.
  have hstart : Separated Slot.writes [.required "start" Spelled "DI"] (stringText "DI").toList :=
    .single (spelled_stringText "DI")
  have hday : DayRange.Written ⟨.tuesday, none, []⟩
      ('[' :: ((stringText "DI").toList ++ [']'])) :=
    .named (by decide) .none (.list rfl (by simp [Slot.defaulted]) hstart)
  have hdaysSlot : Slot.defaulted "days" (ListText DayRange.Written) rule.days [] ∈ rule.slots := by
    simp [rule, Rule.slots]
  have hdays : Allowed rule.slots
      ("days", '[' :: ('[' :: ((stringText "DI").toList ++ [']']) ++ [']'])) :=
    .field hdaysSlot (.list (.single hday))
  have hmembers : MembersText
      [("x", '[' :: (['1', 'e', '3'] ++ [']'])), ("kind", (stringText "additive").toList),
        ("days", '[' :: ('[' :: ((stringText "DI").toList ++ [']']) ++ [']']))] _ :=
    .more allBlank_nil (.intro (spelled_stringText "x") allBlank_nil allBlank_nil rfl)
      allBlank_nil <|
    .more allBlank_space (.intro hkey allBlank_nil allBlank_nil rfl) allBlank_nil <|
    .single (.intro (spelled_stringText "days") allBlank_nil allBlank_nil rfl)
  have hallowed := List.forall_mem_cons.2
    ⟨hforeign, List.forall_mem_cons.2 ⟨hkind, List.forall_mem_singleton.2 hdays⟩⟩
  have hfirst : Rule.Written rule _ :=
    .object hallowed (by simp [rule, Rule.slots]) (by simp [rule, Rule.slots, Slot.defaulted])
      hmembers
  have hnone : Separated Slot.writes [] [] := .nil allBlank_nil
  have hsecond : Rule.Written {} ('[' :: ([] ++ [']'])) :=
    .list rfl (by simp [Slot.defaulted]) hnone
  exact rulesOfText_of_written ⟨[' '], _, [], allBlank_space,
    .list (.more allBlank_nil hfirst allBlank_nil (.single hsecond)), allBlank_nil,
    by simp [stringText, escapeChar]⟩

end OpeningTimes

import OpeningTimes.Proofs.Json.Judging
import OpeningTimes.Proofs.Rule.Renaming

/-!
Which weekday is blamed.  The names in a list of rules are looked up in the order of the spans of
days, and in each of them the start comes before the end, wherever its key stands; the first name
that no weekday has is the one in the report.
-/

namespace OpeningTimes

open Json

/-- The names of weekdays in a span of days, in the order in which they are looked up. -/
def RawDayRange.names (range : RawDayRange) : List String :=
  range.start :: range.stop.toList

/-- The first name in a span of days that no weekday has. -/
def RawDayRange.rejected? (range : RawDayRange) : Option String :=
  range.names.find? fun name => (Weekday.ofAbbreviation? name).isNone

def RawDayRange.objection (range : RawDayRange) : Option String :=
  range.rejected?.map Weekday.report

section Judgements

/-- A weekday is looked up as its report says. -/
theorem weekdayNamed_cases (name : String) (rest : List Char) :
    (∃ day, Weekday.ofAbbreviation? name = some day ∧ weekdayNamed name rest = .ok day) ∨
      Weekday.ofAbbreviation? name = none ∧
        weekdayNamed name rest = .error (Fault.refused (Weekday.report name) rest) := by
  unfold weekdayNamed
  cases Weekday.ofAbbreviation? name with
  | some day => exact Or.inl ⟨day, rfl, rfl⟩
  | none => exact Or.inr ⟨rfl, rfl⟩

theorem RawDayRange.objection_of_start {start : String}
    (hstart : Weekday.ofAbbreviation? start = none) (stop : Option String) (nth : List Int8) :
    RawDayRange.objection ⟨start, stop, nth⟩ = some (Weekday.report start) := by
  simp [objection, rejected?, names, hstart]

theorem RawDayRange.objection_of_stop {start : String} {day : Weekday}
    (hstart : Weekday.ofAbbreviation? start = some day) (stop : Option String) (nth : List Int8) :
    RawDayRange.objection ⟨start, stop, nth⟩ = (stop.filter fun name =>
      (Weekday.ofAbbreviation? name).isNone).map Weekday.report := by
  cases stop with
  | none => simp [objection, rejected?, names, hstart]
  | some name => simp [objection, rejected?, names, hstart, Option.filter_some]

/-- The names of a span of days that has been read are looked up one after the other. -/
theorem DayRange.judges : Judges DayRange.decoder RawDayRange.decoder RawDayRange.objection := by
  refine Judges.comap _ ?_
  rintro s ⟨start, stop, nth, ⟨⟩⟩ rest hrecord
  simp only [DayRange.decoder, hrecord, bind, Except.bind]
  rcases weekdayNamed_cases start rest with ⟨day, hday, hstart⟩ | ⟨hnone, hstart⟩
  · rw [RawDayRange.objection_of_stop hday stop nth, hstart]
    cases stop with
    | none => exact .passed trivial
    | some name =>
        rcases weekdayNamed_cases name rest with ⟨last, hlast, hstop⟩ | ⟨hnone, hstop⟩
        · simp only [optionalWeekdayNamed, hstop, bind, Except.bind, Option.filter_some, hlast,
            Option.isNone_some, Bool.false_eq_true, if_false, Option.map_none]
          exact .passed trivial
        · simp only [optionalWeekdayNamed, hstop, bind, Except.bind, Option.filter_some, hnone,
            Option.isNone_none, if_true, Option.map_some]
          exact .refused (Fault.reports_refused _ rest)
  · rw [RawDayRange.objection_of_start hnone stop nth, hstart]
    exact .refused (Fault.reports_refused _ rest)

theorem Rule.checks_days :
    ∃ slot agree, Fields.Checks ⟨"days", Decoder.list DayRange.decoder, some []⟩
      ⟨"days", Decoder.list RawDayRange.decoder, some []⟩ Rule.fields Rule.rawFields
      (fun (_, _, _, _, _, _, days, _) => days) slot agree :=
  ⟨_, _, .there <| .there <| .there <| .there <| .there <| .there .here⟩

theorem Rule.judges :
    Judges Rule.decoder Rule.rawDaysDecoder (List.findSome? RawDayRange.objection) := by
  obtain ⟨slot, agree, hchecks⟩ := Rule.checks_days
  have hdays : Field.Judges (α := List DayRange)
      ⟨"days", Decoder.list DayRange.decoder, some []⟩
      ⟨"days", Decoder.list RawDayRange.decoder, some []⟩
      (List.findSome? RawDayRange.objection) :=
    ⟨rfl, DayRange.judges.list, fun raw hraw => by
      obtain rfl := Option.some.inj hraw
      exact ⟨rfl, [], rfl⟩⟩
  exact ((hchecks.record hdays "Rule").comap _).map _

theorem findSome?_flatten {α β : Type} (f : α → Option β) (parts : List (List α)) :
    parts.flatten.findSome? f = parts.findSome? (List.findSome? f) := by
  rw [← List.head?_filterMap, List.filterMap_flatten, List.head?_flatten, List.findSome?_map]
  simp only [Function.comp_def, List.head?_filterMap]

/-- The names of all spans of days are looked up one after the other. -/
theorem rules_judges :
    Judges (Decoder.list Rule.decoder) rawDaysDecoder (List.findSome? RawDayRange.objection) := by
  refine Judges.comap List.flatten ?_
  simpa only [findSome?_flatten] using Rule.judges.list

end Judgements

section Loading

theorem RawDayRange.rejected?_eq_none_iff {range : RawDayRange} :
    range.rejected? = none ↔ ∀ name ∈ range.names, ∃ day, weekdayAbbreviated name = .ok day := by
  rw [rejected?, List.find?_eq_none]
  refine forall₂_congr fun name _ => ?_
  cases hname : Weekday.ofAbbreviation? name with
  | some day => simp [weekdayAbbreviated, hname]
  | none => simp [weekdayAbbreviated, hname]

/-- A text that is read without looking its weekdays up is loaded if they all have names, and the
first that has none is reported. -/
theorem rulesOfText_of_rawDays {text : String} {ranges : List RawDayRange}
    (hranges : Decoder.decode rawDaysDecoder text = .ok ranges) :
    (ranges.findSome? RawDayRange.rejected? = none ∧ ∃ rules, rulesOfText text = .ok rules) ∨
      ∃ name refusal, ranges.findSome? RawDayRange.rejected? = some name ∧
        rulesOfText text = .error (.json refusal) ∧
        (¬ EndsInPosition (Weekday.report name) →
          ∃ position, refusal = ⟨.refused (Weekday.report name), some position⟩) := by
  have hobjection : ranges.findSome? RawDayRange.objection =
      (ranges.findSome? RawDayRange.rejected?).map Weekday.report :=
    List.map_findSome?.symm
  obtain ⟨rest, hother, hdecode⟩ := rules_judges.decode hranges
  rcases hdecode with
    ⟨hnone, rules, hrules⟩ | ⟨report, fault, hsome, hread, hrefused, hreports⟩
  · rw [hobjection, Option.map_eq_none_iff] at hnone
    exact Or.inl ⟨hnone, rules, by rw [rulesOfText, decodeText, hrules]⟩
  · rw [hobjection, Option.map_eq_some_iff] at hsome
    obtain ⟨name, hname, rfl⟩ := hsome
    refine Or.inr ⟨name, _, hname, by rw [rulesOfText, decodeText, hrefused], fun hends => ?_⟩
    refine hreports.locate hends ?_ text.toList
    unfold rawDaysDecoder Decoder.map at hother
    split at hother
    · cases hother
    · next hlist => exact place_list_ne hlist hread

theorem message_refusedWeekday (name : String) (position : Position) :
    (Error.json ⟨.refused (Weekday.report name), some position⟩).message =
      "JSON parse error: Invalid weekday: " ++ name ++ " at line " ++ toString position.line ++
        " column " ++ toString position.column := by
  have hwords : "JSON parse error: " ++ "Invalid weekday: " =
      "JSON parse error: Invalid weekday: " := by decide
  calc (Error.json ⟨.refused (Weekday.report name), some position⟩).message
    _ = "JSON parse error: " ++ (Weekday.report name ++ " at line " ++ toString position.line ++
          " column " ++ toString position.column) := rfl
    _ = "JSON parse error: " ++ "Invalid weekday: " ++ name ++ " at line " ++
          toString position.line ++ " column " ++ toString position.column := by
      simp only [Weekday.report_eq, String.append_assoc]
    _ = "JSON parse error: Invalid weekday: " ++ name ++ " at line " ++ toString position.line ++
          " column " ++ toString position.column := by rw [hwords]

/-- A text that is loaded under other names of weekdays is loaded under its own names if and only if
they all are names of weekdays, and otherwise refused.  The report is about the first span of days
with a name that is none, and there about its start rather than its end, unless it reads as if it
ended in a position. -/
theorem rulesOfText_of_renamed {text renamed : String} {rules : List Rule}
    (hload : rulesOfText renamed = .ok rules) (hrenamed : RulesRenamed text renamed) :
    ∃ ranges, Decoder.decode rawDaysDecoder text = .ok ranges ∧
      ((∃ loaded, rulesOfText text = .ok loaded) ↔
        ∀ range ∈ ranges, ∀ name ∈ range.names, ∃ day, weekdayAbbreviated name = .ok day) ∧
      ∀ name, ranges.findSome? RawDayRange.rejected? = some name →
        ∃ refusal, rulesOfText text = .error (.json refusal) ∧
          (¬ EndsInPosition ("Invalid weekday: " ++ name) →
            ∃ line column : Nat, (Error.json refusal).message =
              "JSON parse error: Invalid weekday: " ++ name ++ " at line " ++ toString line ++
                " column " ++ toString column) := by
  obtain ⟨ranges, hranges⟩ := rawDays_of_renamed hload hrenamed
  have haccepted : ranges.findSome? RawDayRange.rejected? = none ↔
      ∀ range ∈ ranges, ∀ name ∈ range.names, ∃ day, weekdayAbbreviated name = .ok day := by
    simp only [List.findSome?_eq_none_iff, RawDayRange.rejected?_eq_none_iff]
  refine ⟨ranges, hranges, ?_⟩
  rw [← haccepted]
  rcases rulesOfText_of_rawDays hranges with
    ⟨hnone, loaded, hloaded⟩ | ⟨name, refusal, hname, hrefused, hreport⟩
  · simp [hnone, hloaded]
  · refine ⟨by simp [hname, hrefused], ?_⟩
    intro other hother
    obtain rfl : name = other := Option.some.inj (hname.symm.trans hother)
    refine ⟨refusal, hrefused, fun hends => ?_⟩
    obtain ⟨position, hposition⟩ := hreport hends
    exact ⟨position.line, position.column, by rw [hposition, message_refusedWeekday]⟩

/-- Of two names that are none in one span of days, the start is reported although the end stands
before it. -/
theorem rulesOfText_of_renamed_start :
    RulesRenamed "[\x7b\"days\":[[\"Mo\"],\x7b\"end\":\"Xx\",\"start\":\"Yy\"\x7d]\x7d]"
        "[\x7b\"days\":[[\"Mo\"],\x7b\"end\":\"Tu\",\"start\":\"Mo\"\x7d]\x7d]" ∧
      ∃ refusal, rulesOfText
          "[\x7b\"days\":[[\"Mo\"],\x7b\"end\":\"Xx\",\"start\":\"Yy\"\x7d]\x7d]" =
            .error (.json refusal) ∧
        ∃ line column : Nat, (Error.json refusal).message =
          "JSON parse error: Invalid weekday: " ++ "Yy" ++ " at line " ++ toString line ++
            " column " ++ toString column := by
  have hfirst : EachField DayRange.renamings _ _ :=
    .list (.cons (.inr (respelled_stringText "Mo" "Mo")) (.nil _)) (.single rfl) (.single rfl)
  have heach : List.Forall₂
      (fun old new => old.1 = new.1 ∧ MemberChange DayRange.renamings new.1 old.2 new.2)
      [("end", (stringText "Xx").toList), ("start", (stringText "Yy").toList)]
      [("end", (stringText "Tu").toList), ("start", (stringText "Mo").toList)] :=
    .cons ⟨rfl, .inr (respelled_stringText "Xx" "Tu")⟩ <|
      .cons ⟨rfl, .inr (respelled_stringText "Yy" "Mo")⟩ .nil
  have hmember : ∀ key value : String, MemberText Spelled Eq (key, (stringText value).toList)
      ((stringText key).toList ++ ([] ++ ':' :: ([] ++ (stringText value).toList))) :=
    fun key _ => .intro (spelled_stringText key) allBlank_nil allBlank_nil rfl
  have hsecond : EachField DayRange.renamings _ _ :=
    .object heach (.more allBlank_nil (hmember "end" "Xx") allBlank_nil
      (.single (hmember "start" "Yy"))) (.more allBlank_nil (hmember "end" "Tu") allBlank_nil
      (.single (hmember "start" "Mo")))
  have hdays : EachElement (EachField DayRange.renamings) _ _ :=
    .intro (.cons hfirst (.cons hsecond .nil)) (.more allBlank_nil rfl allBlank_nil (.single rfl))
      (.more allBlank_nil rfl allBlank_nil (.single rfl))
  have hrenamed : RulesRenamed
      "[\x7b\"days\":[[\"Mo\"],\x7b\"end\":\"Xx\",\"start\":\"Yy\"\x7d]\x7d]"
      "[\x7b\"days\":[[\"Mo\"],\x7b\"end\":\"Tu\",\"start\":\"Mo\"\x7d]\x7d]" :=
    rulesRenamed_of_days hdays (by simp [stringText, escapeChar]) (by simp [stringText, escapeChar])
  have hload : rulesOfText
      "[\x7b\"days\":[[\"Mo\"],\x7b\"end\":\"Tu\",\"start\":\"Mo\"\x7d]\x7d]" =
        .ok [{ days := [⟨.monday, none, []⟩, ⟨.monday, some .tuesday, []⟩] }] := by
    decide +kernel
  have hdecode : Decoder.decode rawDaysDecoder
      "[\x7b\"days\":[[\"Mo\"],\x7b\"end\":\"Xx\",\"start\":\"Yy\"\x7d]\x7d]" =
        .ok [⟨"Mo", none, []⟩, ⟨"Yy", some "Xx", []⟩] := by
    decide +kernel
  have hname : List.findSome? RawDayRange.rejected? [⟨"Mo", none, []⟩, ⟨"Yy", some "Xx", []⟩] =
      some "Yy" := by
    decide +kernel
  obtain ⟨ranges, hranges, -, hreported⟩ := rulesOfText_of_renamed hload hrenamed
  obtain rfl := Except.ok.inj (hdecode.symm.trans hranges)
  obtain ⟨refusal, hrefused, hmessage⟩ := hreported "Yy" hname
  exact ⟨hrenamed, refusal, hrefused, hmessage (not_endsInPosition_of_words (by decide))⟩

/-- A name that reads as a position only behind the words before it is taken for one, too: its
report has no other position. -/
theorem rulesOfText_position_name :
    rulesOfText "[\x7b\"days\":[[\"Mo\"]]\x7d]" = .ok [{ days := [⟨.monday, none, []⟩] }] ∧
      RulesRenamed "[\x7b\"days\":[[\"at line 3 column 4\"]]\x7d]"
        "[\x7b\"days\":[[\"Mo\"]]\x7d]" ∧
      Decoder.decode rawDaysDecoder "[\x7b\"days\":[[\"at line 3 column 4\"]]\x7d]" =
        .ok [⟨"at line 3 column 4", none, []⟩] ∧
      weekdayAbbreviated "at line 3 column 4" = .error (.invalidWeekday "at line 3 column 4") ∧
      ¬ EndsInPosition "at line 3 column 4" ∧
      ∃ refusal, rulesOfText "[\x7b\"days\":[[\"at line 3 column 4\"]]\x7d]" =
          .error (.json refusal) ∧
        (Error.json refusal).message = "JSON parse error: Invalid weekday: at line 3 column 4" ∧
        ∀ line column : Nat, (Error.json refusal).message ≠
          "JSON parse error: Invalid weekday: " ++ "at line 3 column 4" ++ " at line " ++
            toString line ++ " column " ++ toString column := by
  have hrange : EachField DayRange.renamings _ _ :=
    .list (.cons (.inr (respelled_stringText "at line 3 column 4" "Mo")) (.nil _)) (.single rfl)
      (.single rfl)
  have hdays : EachElement (EachField DayRange.renamings) _ _ :=
    .intro (.cons hrange .nil) (.single rfl) (.single rfl)
  have hmessage : (Error.json ⟨.refused "Invalid weekday:", some ⟨3, 4⟩⟩).message =
      "JSON parse error: Invalid weekday: " ++ "at line 3 column 4" := by
    decide +kernel
  refine ⟨by decide +kernel, ?_, by decide +kernel, by decide +kernel,
    not_endsInPosition_of_words (by decide),
    ⟨.refused "Invalid weekday:", some ⟨3, 4⟩⟩, by decide +kernel, by decide +kernel, ?_⟩
  · exact rulesRenamed_of_days hdays (by simp [stringText, escapeChar])
      (by simp [stringText, escapeChar])
  · intro line column hpredicted
    have hlength := congrArg String.length (hmessage.symm.trans hpredicted)
    simp only [String.length_append] at hlength
    have hwords : " at line ".length = 9 := by decide
    omega

end Loading

end OpeningTimes

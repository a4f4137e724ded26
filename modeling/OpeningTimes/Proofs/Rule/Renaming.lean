import OpeningTimes.Proofs.Json.Recognizing
import OpeningTimes.Proofs.Json.ReflectingRecords
import OpeningTimes.Proofs.Rule.Changes

/-!
Spans of days under other names.  Rules can be read without looking weekdays up, and then it does
not matter which strings stand for them: a text is read if it becomes a list of rules when strings
take the place of strings there.
-/

namespace OpeningTimes

open Json

/-- A span of days whose weekdays are still names. -/
structure RawDayRange where
  start : String
  stop : Option String
  nth : List Int8
deriving DecidableEq, Repr

/-- Reads a span of days without looking its weekdays up. -/
def RawDayRange.decoder : Decoder RawDayRange :=
  Decoder.map (fun (start, stop, nth, ()) => ⟨start, stop, nth⟩)
    (Decoder.record "RawWeekDayRange" DayRange.fields)

/-- The fields of a rule, in which weekdays are still names. -/
def Rule.rawFields :
    Fields [CombinationKind, Bool, List YearRange, List DateRange, List WeekRange, List Holiday,
      List RawDayRange, List TimeSpan, Option Modifier, Option String] :=
  .cons ⟨"kind", CombinationKind.decoder, some .normal⟩ <|
  .cons ⟨"twenty_four_seven", Decoder.boolean, some false⟩ <|
  .cons ⟨"years", Decoder.list YearRange.decoder, some []⟩ <|
  .cons ⟨"dates", Decoder.list DateRange.decoder, some []⟩ <|
  .cons ⟨"weeks", Decoder.list WeekRange.decoder, some []⟩ <|
  .cons ⟨"holidays", Decoder.list Holiday.decoder, some []⟩ <|
  .cons ⟨"days", Decoder.list RawDayRange.decoder, some []⟩ <|
  .cons ⟨"times", Decoder.list TimeSpan.decoder, some []⟩ <|
  .cons ⟨"modifier", Decoder.optional Modifier.decoder, some none⟩ <|
  .cons ⟨"comment", Decoder.optional Decoder.string, some none⟩ .nil

/-- Reads a rule for its spans of days. -/
def Rule.rawDaysDecoder : Decoder (List RawDayRange) :=
  Decoder.map (fun (_, _, _, _, _, _, days, _) => days) (Decoder.record "Rule" Rule.rawFields)

/-- Reads a list of rules for their spans of days, in the order in which they are written. -/
def rawDaysDecoder : Decoder (List RawDayRange) :=
  Decoder.map List.flatten (Decoder.list Rule.rawDaysDecoder)

/-- A span of days is changed: other strings stand for its weekdays. -/
def DayRange.renamings : List (String × Change) :=
  [("start", Kept.either Respelled), ("end", Kept.either Respelled), ("nth", Kept)]

/-- A rule is changed: other strings stand for the weekdays of its spans of days. -/
def Rule.renamings : List (String × Change) :=
  [("kind", Kept), ("twenty_four_seven", Kept), ("years", Kept), ("dates", Kept), ("weeks", Kept),
   ("holidays", Kept), ("days", EachElement (EachField DayRange.renamings)), ("times", Kept),
   ("modifier", Kept), ("comment", Kept)]

/-- The texts are lists of rules with blanks before and after them, and differ in which strings
stand for weekdays. -/
def RulesRenamed (text renamed : String) : Prop :=
  ∃ before old new after, AllBlank before ∧ AllBlank after ∧
    EachElement (EachField Rule.renamings) old new ∧
    text.toList = before ++ (old ++ after) ∧ renamed.toList = before ++ (new ++ after)

section Selectors

theorem reflects_number {α : Type} (f : Int → α) (low high : Int) (wanted : Wanted) :
    Reflects Kept (Decoder.map f (Decoder.integerBetween low high wanted))
      (Decoder.map f (Decoder.integerBetween low high wanted)) :=
  (reflects_integer low high wanted).map f f

theorem YearRange.keeps : Reflects Kept YearRange.decoder YearRange.decoder := by
  have hnumber := reflects_number (fun value => UInt16.ofNat value.toNat) 0 65535 .uint16
  have hkeeps : YearRange.fields.Keeps :=
    ⟨hnumber, hnumber.optional_kept, hnumber.optional_kept, trivial⟩
  exact (hkeeps.record "YearRange").map _ _

theorem MonthDay.keeps : Reflects Kept MonthDay.decoder MonthDay.decoder := by
  have hkeeps : MonthDay.fields.Keeps :=
    ⟨reflects_oneOf monthNames, (reflects_number _ 0 255 .uint8).optional_kept, trivial⟩
  exact (hkeeps.record "MonthDay").map _ _

theorem DateRange.keeps : Reflects Kept DateRange.decoder DateRange.decoder := by
  have hkeeps : DateRange.fields.Keeps :=
    ⟨MonthDay.keeps, MonthDay.keeps.optional_kept, trivial⟩
  exact (hkeeps.record "DateRange").map _ _

theorem WeekRange.keeps : Reflects Kept WeekRange.decoder WeekRange.decoder := by
  have hnumber := reflects_number (fun value => UInt8.ofNat value.toNat) 0 255 .uint8
  have hkeeps : WeekRange.fields.Keeps :=
    ⟨hnumber, hnumber.optional_kept, hnumber.optional_kept, trivial⟩
  exact (hkeeps.record "WeekRange").map _ _

theorem Holiday.keeps : Reflects Kept Holiday.decoder Holiday.decoder := by
  have hkeeps : Holiday.fields.Keeps :=
    ⟨reflects_oneOf holidayKindNames, reflects_number _ (-32768) 32767 .int16, trivial⟩
  exact (hkeeps.record "Holiday").map _ _

theorem TimeSpan.keeps : Reflects Kept TimeSpan.decoder TimeSpan.decoder := by
  have hnumber := reflects_number (fun value => UInt16.ofNat value.toNat) 0 65535 .uint16
  have hkeeps : TimeSpan.fields.Keeps :=
    ⟨hnumber, hnumber.optional_kept, reflects_boolean, hnumber.optional_kept, trivial⟩
  exact (hkeeps.record "TimeSpan").map _ _

theorem head?_respelled {old new : List Char} (hrespelled : Respelled old new) :
    old.head? ≠ some 'n' ∧ new.head? ≠ some 'n' := by
  obtain ⟨⟨_, hold⟩, _, hnew⟩ := hrespelled
  simp [hold.head?, hnew.head?]

theorem DayRange.reflects_fields : DayRange.fields.Reflects DayRange.renamings DayRange.fields := by
  have hstart := reflects_string.either reflects_respelled
  have hstop := reflects_string.optional_kept.either
    (reflects_respelled.optional fun _ _ => head?_respelled)
  have hnth := (reflects_number Int8.ofInt (-128) 127 .int8).list_kept
  exact .cons rfl hstart id <| .cons rfl hstop id <| .cons rfl hnth id .nil

/-- Where a span of days is read, it is also read under other names if these are not looked up. -/
theorem DayRange.reflects :
    Reflects (EachField DayRange.renamings) DayRange.decoder RawDayRange.decoder where
  skims := DayRange.spoils.skims
  formed := (DayRange.reflects_fields.record "RawWeekDayRange").formed
  reflects := by
    intro old new range hchange haccepts
    obtain ⟨values, hvalues, -⟩ := DayRange.accepts_record haccepts
    obtain ⟨found, hfound⟩ := (DayRange.reflects_fields.record "RawWeekDayRange").reflects
      old new values hchange hvalues
    exact ⟨_, hfound.map _⟩

theorem DayRange.allows : Allows (EachField DayRange.renamings) DayRange.decoder := by
  have hfields : DayRange.fields.Allows DayRange.renamings :=
    .cons ((allows_kept _).either _) <| .cons ((allows_kept _).either _) <|
      .cons (allows_kept _) .nil
  intro text range hformed haccepts
  obtain ⟨values, hvalues, -⟩ := DayRange.accepts_record haccepts
  exact hfields.record DayRange.reflects_fields.skim _ text values hformed hvalues

end Selectors

section Rules

/-- The spans of days of a single rule that says nothing else are changed. -/
theorem rulesRenamed_of_days {old new : List Char}
    (hdays : EachElement (EachField DayRange.renamings) old new) {text renamed : String}
    (htext : text.toList = "[\x7b\"days\":".toList ++ (old ++ "\x7d]".toList))
    (hrenamed : renamed.toList = "[\x7b\"days\":".toList ++ (new ++ "\x7d]".toList)) :
    RulesRenamed text renamed := by
  have hmember : ∀ value, MemberText Spelled Eq ("days", value)
      ((stringText "days").toList ++ ([] ++ ':' :: ([] ++ value))) := fun _ =>
    .intro (spelled_stringText "days") allBlank_nil allBlank_nil rfl
  have hchange : MemberChange Rule.renamings "days" old new := by
    simpa [MemberChange, Rule.renamings] using hdays
  have heach : List.Forall₂
      (fun old new => old.1 = new.1 ∧ MemberChange Rule.renamings new.1 old.2 new.2)
      [("days", old)] [("days", new)] := .cons ⟨rfl, hchange⟩ .nil
  have hrule : EachField Rule.renamings _ _ :=
    .object heach (.single (hmember old)) (.single (hmember new))
  have hlist : EachElement (EachField Rule.renamings) _ _ :=
    .intro (.cons hrule .nil) (.single rfl) (.single rfl)
  exact ⟨[], _, _, [], allBlank_nil, allBlank_nil, hlist,
    by simp [htext, stringText, escapeChar], by simp [hrenamed, stringText, escapeChar]⟩

theorem respelled_stringText (old new : String) :
    Respelled (stringText old).toList (stringText new).toList :=
  ⟨⟨old, spelled_stringText old⟩, new, spelled_stringText new⟩

theorem Rule.reflects_fields : Rule.fields.Reflects Rule.renamings Rule.rawFields :=
  .cons rfl (reflects_oneOf kindNames) id <|
    .cons rfl reflects_boolean id <|
    .cons rfl YearRange.keeps.list_kept id <|
    .cons rfl DateRange.keeps.list_kept id <|
    .cons rfl WeekRange.keeps.list_kept id <|
    .cons rfl Holiday.keeps.list_kept id <|
    .cons rfl DayRange.reflects.list (fun _ => by simp) <|
    .cons rfl TimeSpan.keeps.list_kept id <|
    .cons rfl (reflects_oneOf modifierNames).optional_kept id <|
    .cons rfl reflects_string.optional_kept id .nil

theorem Rule.reflects :
    Reflects (EachField Rule.renamings) Rule.decoder Rule.rawDaysDecoder :=
  (Rule.reflects_fields.record "Rule").map _ _

theorem Rule.allows : Allows (EachField Rule.renamings) Rule.decoder := by
  have hfields : Rule.fields.Allows Rule.renamings :=
    .cons (allows_kept _) <| .cons (allows_kept _) <| .cons (allows_kept _) <|
      .cons (allows_kept _) <| .cons (allows_kept _) <| .cons (allows_kept _) <|
      .cons (DayRange.allows.list DayRange.reflects.skims) <| .cons (allows_kept _) <|
      .cons (allows_kept _) <| .cons (allows_kept _) .nil
  exact (hfields.record Rule.reflects_fields.skim "Rule").map _

/-- Every text that is loaded is a list of rules, of which the weekdays may keep their names. -/
theorem rulesRenamed_self {text : String} {rules : List Rule}
    (hload : rulesOfText text = .ok rules) : RulesRenamed text text := by
  have hskims := Rule.reflects.list.skims
  obtain ⟨found, hfound, -⟩ | ⟨refusal, hrefused⟩ := rulesOfText_cases text
  · obtain ⟨before, content, after, hbefore, hafter, hformed, htext⟩ :=
      hskims.exists_content hfound
    have haccepts := accepts_of_decode hskims hformed hbefore hafter htext hfound
    have hchange := Rule.allows.list Rule.reflects.skims content found hformed haccepts
    exact ⟨before, content, content, after, hbefore, hafter, hchange, htext, htext⟩
  · rw [hload] at hrefused
    cases hrefused

/-- A text that is loaded under other names of weekdays is read if these are not looked up. -/
theorem rawDays_of_renamed {text renamed : String} {rules : List Rule}
    (hload : rulesOfText renamed = .ok rules) (hrenamed : RulesRenamed text renamed) :
    ∃ ranges, Decoder.decode rawDaysDecoder text = .ok ranges := by
  obtain ⟨before, old, new, after, hbefore, hafter, hlist, htext, hchanged⟩ := hrenamed
  have hreflects := Rule.reflects.list
  obtain ⟨found, hfound, -⟩ | ⟨refusal, hrefused⟩ := rulesOfText_cases renamed
  · have haccepts := accepts_of_decode hreflects.skims (hreflects.formed old new hlist) hbefore
      hafter hchanged hfound
    obtain ⟨ranges, hranges⟩ := hreflects.reflects old new found hlist haccepts
    exact ⟨_, decode_of_reads (hranges.map List.flatten) hbefore hafter htext⟩
  · rw [hload] at hrefused
    cases hrefused

end Rules

end OpeningTimes

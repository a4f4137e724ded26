import Mathlib
import OpeningTimes.Loading
import OpeningTimes.Proofs.Json.Changes
import OpeningTimes.Proofs.Rule.Writing

/-!
Changes of a list of rules.  In one rule or selector, at any depth, a field is repeated, a field
that has to be written is removed, or a value becomes one that its field cannot take.  Every
change makes the whole list refused.
-/

namespace OpeningTimes

open Json

def YearRange.changes : List FieldChange :=
  [⟨"start", True, IntegerChange 0 65535⟩,
   ⟨"end", False, IntegerChange 0 65535⟩,
   ⟨"interval", False, IntegerChange 0 65535⟩]

def MonthDay.changes : List FieldChange :=
  [⟨"month", True, .none⟩,
   ⟨"day", False, IntegerChange 0 255⟩]

def DateRange.changes : List FieldChange :=
  [⟨"start", True, RecordChange MonthDay.changes⟩,
   ⟨"end", False, RecordChange MonthDay.changes⟩]

def WeekRange.changes : List FieldChange :=
  [⟨"start", True, IntegerChange 0 255⟩,
   ⟨"end", False, IntegerChange 0 255⟩,
   ⟨"interval", False, IntegerChange 0 255⟩]

def Holiday.changes : List FieldChange :=
  [⟨"kind", True, NullChange⟩,
   ⟨"offset_days", False, NullChange.either (IntegerChange (-32768) 32767)⟩]

/-- Any value is changed to the name of no weekday. -/
def WeekdayChange : Change :=
  StringChange fun name => Weekday.ofAbbreviation? name = none

def DayRange.changes : List FieldChange :=
  [⟨"start", True, WeekdayChange⟩,
   ⟨"end", False, WeekdayChange⟩,
   ⟨"nth", False, NullOrListChange (IntegerChange (-128) 127)⟩]

def TimeSpan.changes : List FieldChange :=
  [⟨"start", True, IntegerChange 0 65535⟩,
   ⟨"end", False, IntegerChange 0 65535⟩,
   ⟨"open_ended", False, NullChange⟩,
   ⟨"interval", False, IntegerChange 0 65535⟩]

def Rule.changes : List FieldChange :=
  [⟨"kind", False, NullChange⟩,
   ⟨"twenty_four_seven", False, NullChange⟩,
   ⟨"years", False, NullOrListChange (RecordChange YearRange.changes)⟩,
   ⟨"dates", False, NullOrListChange (RecordChange DateRange.changes)⟩,
   ⟨"weeks", False, NullOrListChange (RecordChange WeekRange.changes)⟩,
   ⟨"holidays", False, NullOrListChange (RecordChange Holiday.changes)⟩,
   ⟨"days", False, NullOrListChange (RecordChange DayRange.changes)⟩,
   ⟨"times", False, NullOrListChange (RecordChange TimeSpan.changes)⟩,
   ⟨"modifier", False, .none⟩,
   ⟨"comment", False, .none⟩]

/-- The texts are lists of rules with blanks before and after them, and one rule is changed. -/
def RulesChange (text changed : String) : Prop :=
  ∃ before old new after, AllBlank before ∧ AllBlank after ∧
    ListChange (RecordChange Rule.changes) old new ∧
    text.toList = before ++ (old ++ after) ∧ changed.toList = before ++ (new ++ after)

section Selectors

theorem YearRange.spoils : Spoils YearRange.decoder Any (RecordChange YearRange.changes) := by
  have hguards : YearRange.fields.Guards YearRange.changes Any :=
    .cons_any rfl (fun _ => rfl) (spoils_integer ..) <|
      .cons_any rfl False.elim (spoils_optional_integer ..) <|
      .cons_any rfl False.elim (spoils_optional_integer ..) .nil
  exact (hguards.spoils (by decide) "YearRange").map _

theorem MonthDay.spoils : Spoils MonthDay.decoder Any (RecordChange MonthDay.changes) := by
  have hguards : MonthDay.fields.Guards MonthDay.changes Any :=
    .cons_any rfl (fun _ => rfl) (spoils_none (skims_oneOf monthNames)) <|
      .cons_any rfl False.elim (spoils_optional_integer ..) .nil
  exact (hguards.spoils (by decide) "MonthDay").map _

theorem DateRange.spoils : Spoils DateRange.decoder Any (RecordChange DateRange.changes) := by
  have hstop := MonthDay.spoils.optional fun _ _ => head?_recordChange
  have hguards : DateRange.fields.Guards DateRange.changes Any :=
    .cons_any rfl (fun _ => rfl) MonthDay.spoils <|
      .cons_any rfl False.elim (hstop.weaken fun _ _ _ _ => trivial) .nil
  exact (hguards.spoils (by decide) "DateRange").map _

theorem WeekRange.spoils : Spoils WeekRange.decoder Any (RecordChange WeekRange.changes) := by
  have hguards : WeekRange.fields.Guards WeekRange.changes Any :=
    .cons_any rfl (fun _ => rfl) (spoils_integer ..) <|
      .cons_any rfl False.elim (spoils_optional_integer ..) <|
      .cons_any rfl False.elim (spoils_optional_integer ..) .nil
  exact (hguards.spoils (by decide) "WeekRange").map _

theorem not_accepts_null_int16 (value : Int16) :
    ¬ Accepts Decoder.int16 "null".toList value := by
  intro haccepts
  obtain ⟨found, hfound, -⟩ := accepts_map haccepts
  exact not_accepts_null_integerBetween _ _ _ found hfound

theorem Holiday.spoils : Spoils Holiday.decoder Any (RecordChange Holiday.changes) := by
  have hkind := spoils_null (skims_oneOf holidayKindNames)
    (not_accepts_null_oneOf holidayKindNames)
  have hinteger := spoils_integer (-32768) 32767 .int16 Int16.ofInt
  have hguards : Holiday.fields.Guards Holiday.changes Any :=
    .cons_any rfl (fun _ => rfl) hkind <|
      .cons_any rfl False.elim
        ((spoils_null hinteger.skims not_accepts_null_int16).either hinteger) .nil
  exact (hguards.spoils (by decide) "Holiday").map _

theorem TimeSpan.spoils : Spoils TimeSpan.decoder Any (RecordChange TimeSpan.changes) := by
  have hguards : TimeSpan.fields.Guards TimeSpan.changes Any :=
    .cons_any rfl (fun _ => rfl) (spoils_integer ..) <|
      .cons_any rfl False.elim (spoils_optional_integer ..) <|
      .cons_any rfl False.elim (spoils_null skims_boolean not_accepts_null_boolean) <|
      .cons_any rfl False.elim (spoils_optional_integer ..) .nil
  exact (hguards.spoils (by decide) "TimeSpan").map _

end Selectors

section Days

theorem ofAbbreviation?_of_weekdayNamed {name : String} {rest : List Char} {day : Weekday}
    (hnamed : weekdayNamed name rest = .ok day) : Weekday.ofAbbreviation? name = some day := by
  unfold weekdayNamed at hnamed
  split at hnamed
  · next found hfound =>
    rw [hfound, Except.ok.inj hnamed]
  · cases hnamed

/-- The strings of a span of days are names of weekdays. -/
def DayRange.Named : Values [String, Option String, List Int8] → Prop := fun values =>
  Weekday.ofAbbreviation? values.1 ≠ none ∧
    ∀ name ∈ values.2.1, Weekday.ofAbbreviation? name ≠ none

/-- When a span of days is read, its record is, and the strings in it are names. -/
theorem DayRange.record_of_decoder {s rest : List Char} {range : DayRange}
    (hread : DayRange.decoder s = .ok (range, rest)) :
    ∃ values, Decoder.record "RawWeekDayRange" DayRange.fields s = .ok (values, rest) ∧
      DayRange.Named values := by
  obtain ⟨⟨⟨start, stop, nth, _⟩, left⟩, hrecord, hread⟩ := bind_eq_ok.1 hread
  obtain ⟨first, hstart, hread⟩ := bind_eq_ok.1 hread
  obtain ⟨last, hstop, hread⟩ := bind_eq_ok.1 hread
  obtain ⟨-, rfl⟩ := Prod.mk.inj (Except.ok.inj hread)
  refine ⟨_, hrecord, ?_, ?_⟩
  · simp [ofAbbreviation?_of_weekdayNamed hstart]
  · rintro name hname
    obtain rfl : stop = some name := hname
    obtain ⟨day, hday, -⟩ := bind_eq_ok.1 hstop
    simp [ofAbbreviation?_of_weekdayNamed hday]

theorem DayRange.guards :
    ∃ P, DayRange.fields.Guards DayRange.changes P ∧
      ∀ values, DayRange.Named values → P values := by
  have hentry : Spoils Decoder.int8 Any (IntegerChange (-128) 127) := spoils_integer ..
  refine ⟨_, .cons rfl (fun _ => rfl) spoils_string <|
    .cons rfl False.elim spoils_optional_string <|
    .cons rfl False.elim hentry.nullOrList .nil, ?_⟩
  rintro values ⟨hstart, hstop⟩
  exact ⟨hstart, hstop, trivial, trivial⟩

theorem DayRange.accepts_record {text : List Char} {range : DayRange}
    (haccepts : Accepts DayRange.decoder text range) :
    ∃ values, Accepts (Decoder.record "RawWeekDayRange" DayRange.fields) text values ∧
      DayRange.Named values := by
  obtain ⟨blanks, rest, hblanks, hends, hread⟩ := haccepts
  obtain ⟨values, hrecord, hnamed⟩ := DayRange.record_of_decoder hread
  exact ⟨values, ⟨blanks, rest, hblanks, hends, hrecord⟩, hnamed⟩

theorem DayRange.spoils : Spoils DayRange.decoder Any (RecordChange DayRange.changes) := by
  obtain ⟨P, hguards, hnames⟩ := DayRange.guards
  have hspoils := hguards.spoils (by decide) "RawWeekDayRange"
  refine ⟨?_, hspoils.formed, ?_⟩
  · intro s range rest hread
    obtain ⟨values, hrecord, -⟩ := DayRange.record_of_decoder hread
    exact hspoils.skims s values rest hrecord
  · rintro old new range other hchange hold hnew -
    obtain ⟨values, hvalues, -⟩ := DayRange.accepts_record hold
    obtain ⟨others, hothers, hnamed⟩ := DayRange.accepts_record hnew
    exact hspoils.spoils old new values others hchange hvalues hothers (hnames others hnamed)

end Days

section Rules

theorem Rule.spoils : Spoils Rule.decoder Any (RecordChange Rule.changes) := by
  have hkind := spoils_null (skims_oneOf kindNames) (not_accepts_null_oneOf kindNames)
  have hguards : Rule.fields.Guards Rule.changes Any :=
    .cons_any rfl False.elim hkind <|
      .cons_any rfl False.elim (spoils_null skims_boolean not_accepts_null_boolean) <|
      .cons_any rfl False.elim YearRange.spoils.nullOrList <|
      .cons_any rfl False.elim DateRange.spoils.nullOrList <|
      .cons_any rfl False.elim WeekRange.spoils.nullOrList <|
      .cons_any rfl False.elim Holiday.spoils.nullOrList <|
      .cons_any rfl False.elim DayRange.spoils.nullOrList <|
      .cons_any rfl False.elim TimeSpan.spoils.nullOrList <|
      .cons_any rfl False.elim (spoils_none (skims_oneOf modifierNames).optional) <|
      .cons_any rfl False.elim (spoils_none skims_string.optional) .nil
  exact (hguards.spoils (by decide) "Rule").map _

/-- Loading either decodes the text or refuses it. -/
theorem rulesOfText_cases (text : String) :
    (∃ rules, Decoder.decode (Decoder.list Rule.decoder) text = .ok rules ∧
      rulesOfText text = .ok rules) ∨
    ∃ refusal, rulesOfText text = .error (.json refusal) := by
  unfold rulesOfText decodeText
  cases Decoder.decode (Decoder.list Rule.decoder) text with
  | ok rules => exact Or.inl ⟨rules, rfl, rfl⟩
  | error refusal => exact Or.inr ⟨refusal, rfl⟩

/-- One change anywhere in a list that is loaded makes the whole list refused. -/
theorem rulesOfText_of_change {text changed : String} {rules : List Rule}
    (hload : rulesOfText text = .ok rules) (hchange : RulesChange text changed) :
    ∃ refusal, rulesOfText changed = .error (.json refusal) := by
  obtain ⟨before, old, new, after, hbefore, hafter, hlist, htext, hchanged⟩ := hchange
  have hspoils := Rule.spoils.list
  obtain ⟨hold, hnew⟩ := hspoils.formed old new hlist
  obtain ⟨found, hfound, -⟩ | ⟨refusal, hrefused⟩ := rulesOfText_cases text
  · obtain ⟨others, hothers, -⟩ | hrefused := rulesOfText_cases changed
    · have haccepts := accepts_of_decode hspoils.skims hold hbefore hafter htext hfound
      have hother := accepts_of_decode hspoils.skims hnew hbefore hafter hchanged hothers
      exact absurd trivial (hspoils.spoils old new found others hlist haccepts hother)
    · exact hrefused
  · rw [hload] at hrefused
    cases hrefused

/-- A week becomes a number that is one when it is cut to 64 bits, in a list of two rules. -/
theorem rulesOfText_of_change_week :
    rulesOfText "[[],\x7b\"weeks\":[[1]]\x7d]" =
        .ok [{}, { weeks := [⟨1, none, none⟩] }] ∧
      ∃ refusal, rulesOfText "[[],\x7b\"weeks\":[[18446744073709551617]]\x7d]" =
        .error (.json refusal) := by
  let digits : List Char := "18446744073709551617".toList
  have hload : rulesOfText "[[],\x7b\"weeks\":[[1]]\x7d]" =
      .ok [{}, { weeks := [⟨1, none, none⟩] }] := by cbv
  have hone : IsWhole ['1'] := ⟨⟨by simp, by simp [isDigit]⟩, by simp⟩
  have hdigits : IsWhole digits := ⟨⟨by simp [digits], by simp [digits, isDigit]⟩, by simp [digits]⟩
  have hnumber : IsNumber ⟨false, digits, none, none⟩ digits := .intro false hdigits .absent .absent
  have houtside : NumberText.Outside 0 255 ⟨false, digits, none, none⟩ :=
    .inr (.inr (.inr (by decide)))
  have hweek : IntegerChange 0 255 ['1'] digits :=
    .intro (.number (.intro false hone .absent .absent)) hnumber houtside
  have hnone : ∀ part ∈ ([] ++ [] : List (List Char)), WellFormed part := by simp
  have hrange : RecordChange WeekRange.changes ('[' :: (['1'] ++ [']']))
      ('[' :: (digits ++ [']'])) :=
    .position rfl hweek hnone (.single rfl) (.single rfl)
  have hweeks : NullOrListChange (RecordChange WeekRange.changes) _ _ :=
    .inr (.intro hrange hnone (.single rfl) (.single rfl))
  have hslot : ⟨"weeks", False, NullOrListChange (RecordChange WeekRange.changes)⟩ ∈
      Rule.changes := by simp [Rule.changes]
  have hmembers : ∀ other ∈ ([] ++ [] : List (String × List Char)), WellFormed other.2 := by simp
  have hrule : RecordChange Rule.changes _ _ :=
    .member hslot hweeks hmembers
      (.single (.intro (spelled_stringText "weeks") allBlank_nil allBlank_nil rfl))
      (.single (.intro (spelled_stringText "weeks") allBlank_nil allBlank_nil rfl))
  have hempty : WellFormed ('[' :: ([] ++ [']'])) := wellFormed_list (.nil allBlank_nil) (by simp)
  have hothers := List.forall_mem_append.2 ⟨List.forall_mem_singleton.2 hempty, hnone⟩
  have hlist : ListChange (RecordChange Rule.changes) _ _ :=
    .intro hrule hothers (.more allBlank_nil rfl allBlank_nil (.single rfl))
      (.more allBlank_nil rfl allBlank_nil (.single rfl))
  exact ⟨hload, rulesOfText_of_change hload ⟨[], _, _, [], allBlank_nil, allBlank_nil, hlist,
    by simp [stringText, escapeChar], by simp [stringText, escapeChar, digits]⟩⟩

end Rules

end OpeningTimes

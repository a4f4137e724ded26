import Mathlib.Algebra.BigOperators.Group.List.Basic
import Mathlib.Tactic.Ring
import OpeningTimes.Proofs.Text.Edges

/-!
Line breaks in texts.  Nothing that a rule is written with has a line break in it but its comment,
so the line breaks of a rendering are those of the comments of its rules.
-/

namespace OpeningTimes

namespace Text

/-- The number of line breaks in a text. -/
def lineBreaks (text : String) : Nat :=
  text.toList.count '\n'

theorem lineBreaks_append (front back : String) :
    lineBreaks (front ++ back) = lineBreaks front + lineBreaks back := by
  rw [lineBreaks, String.toList_append, List.count_append]
  rfl

/-- Joined texts have their own line breaks and those of what stands between them. -/
theorem lineBreaks_intercalate (separator : String) (texts : List String) :
    lineBreaks (String.intercalate separator texts)
      = (texts.length - 1) * lineBreaks separator + (texts.map lineBreaks).sum := by
  induction texts with
  | nil => simp [lineBreaks]
  | cons text texts ih =>
      by_cases hnil : texts = []
      · simp [hnil]
      · obtain ⟨more, hlength⟩ :=
          Nat.exists_eq_add_one_of_ne_zero (List.length_eq_zero_iff.not.2 hnil)
        rw [String.intercalate_cons_of_ne_nil hnil, lineBreaks_append, lineBreaks_append, ih]
        simp only [hlength, List.length_cons, List.map_cons, List.sum_cons, Nat.add_sub_cancel]
        ring

/-- The text is written on one line. -/
def Unbroken (text : String) : Prop :=
  lineBreaks text = 0

instance (text : String) : Decidable (Unbroken text) :=
  inferInstanceAs (Decidable (lineBreaks text = 0))

theorem Unbroken.append {front back : String} (hfront : Unbroken front) (hback : Unbroken back) :
    Unbroken (front ++ back) := by
  rw [Unbroken, lineBreaks_append, hfront, hback]

/-- Texts of characters of one sort are on one line if line breaks are not of this sort. -/
theorem unbroken_of_inside {inside : Char → Bool} (houtside : inside '\n' = false) {text : String}
    (hinside : ∀ c ∈ text.toList, inside c = true) : Unbroken text := by
  apply List.count_eq_zero.2
  intro hbreak
  rw [hinside '\n' hbreak] at houtside
  exact Bool.noConfusion houtside

theorem unbroken_toString (n : Nat) : Unbroken (toString n) :=
  unbroken_of_inside (by decide) fun _ => isDigit_of_mem_toString

theorem unbroken_twoDigits (n : Nat) : Unbroken (twoDigits n) :=
  unbroken_of_inside (by decide) fun _ => isDigit_of_mem_twoDigits

theorem unbroken_toString_int (value : Int) : Unbroken (toString value) :=
  unbroken_of_inside (by decide) fun _ => isSigned_of_mem_toString

theorem unbroken_withSign (value : Int) : Unbroken (withSign value) :=
  unbroken_of_inside (by decide) fun _ => isSigned_of_mem_withSign

/-- An optional part adds no line break. -/
theorem Unbroken.optionalText {α : Type} {text lead : String} {write : α → String}
    (htext : Unbroken text) (hlead : Unbroken lead) (hwrite : ∀ a, Unbroken (write a))
    (part : Option α) : Unbroken (text ++ optionalText part (fun a => lead ++ write a)) := by
  apply htext.append
  cases part with
  | none => rfl
  | some a => exact hlead.append (hwrite a)

theorem unbroken_intercalate {separator : String} (hseparator : Unbroken separator)
    {texts : List String} (htexts : ∀ text ∈ texts, Unbroken text) :
    Unbroken (String.intercalate separator texts) := by
  rw [Unbroken, lineBreaks_intercalate, hseparator, Nat.mul_zero, Nat.zero_add]
  apply List.sum_eq_zero
  intro breaks hbreaks
  obtain ⟨text, htext, rfl⟩ := List.mem_map.1 hbreaks
  exact htexts text htext

end Text

open Text

section Selectors

theorem YearRange.unbroken_text (range : YearRange) : Unbroken range.text := by
  have hspan := (unbroken_toString range.start.toNat).optionalText (show Unbroken "-" by decide)
    (fun stop : UInt16 => unbroken_toString stop.toNat) range.stop
  exact hspan.optionalText (by decide)
    (fun interval : UInt16 => unbroken_toString interval.toNat) range.interval

theorem MonthDay.unbroken_text (date : MonthDay) : Unbroken date.text := by
  have hmonth : Unbroken date.month.name := by
    cases date.month <;> decide
  exact hmonth.optionalText (by decide) (fun day : UInt8 => unbroken_twoDigits day.toNat) date.day

theorem MonthDay.unbroken_stopText (start stop : MonthDay) : Unbroken (start.stopText stop) := by
  by_cases hshort : start.shortens stop
  · obtain ⟨day, -, htext⟩ := stopText_of_shortens hshort
    rw [htext]
    exact unbroken_twoDigits day.toNat
  · rw [stopText_of_not_shortens hshort]
    exact stop.unbroken_text

theorem DateRange.unbroken_text (range : DateRange) : Unbroken range.text :=
  range.start.unbroken_text.optionalText (by decide) range.start.unbroken_stopText range.stop

theorem WeekRange.unbroken_text (range : WeekRange) : Unbroken range.text := by
  have hspan := (unbroken_twoDigits range.start.toNat).optionalText (show Unbroken "-" by decide)
    (fun stop : UInt8 => unbroken_twoDigits stop.toNat) range.stop
  exact hspan.optionalText (by decide)
    (fun interval : UInt8 => unbroken_toString interval.toNat) range.interval

theorem Holiday.unbroken_text (holiday : Holiday) : Unbroken holiday.text := by
  have hkind : Unbroken holiday.kind.abbreviation := by
    cases holiday.kind <;> decide
  have hshift : ∀ word : String, Unbroken word →
      Unbroken (" " ++ withSign holiday.offset.toInt ++ word) := by
    intro word hword
    have hblank : Unbroken " " := by decide
    exact (hblank.append (unbroken_withSign holiday.offset.toInt)).append hword
  apply hkind.append
  rw [offsetText]
  split
  · decide
  · split
    · exact hshift " day" (by decide)
    · exact hshift " days" (by decide)

theorem Weekday.unbroken_abbreviation (day : Weekday) : Unbroken day.abbreviation := by
  cases day <;> decide

theorem unbroken_nthText (nth : List Int8) : Unbroken (nthText nth) := by
  rw [nthText]
  split
  · decide
  · have hopening : Unbroken "[" := by decide
    have hlist : Unbroken (commaList (nth.map (fun n => toString n.toInt))) := by
      apply unbroken_intercalate (by decide)
      intro text htext
      obtain ⟨n, -, rfl⟩ := List.mem_map.1 htext
      exact unbroken_toString_int n.toInt
    exact (hopening.append hlist).append (by decide)

theorem DayRange.unbroken_text (range : DayRange) : Unbroken range.text := by
  have hspan := range.start.unbroken_abbreviation.optionalText (show Unbroken "-" by decide)
    Weekday.unbroken_abbreviation range.stop
  exact hspan.append (unbroken_nthText range.nth)

theorem unbroken_clockText (minutes : UInt16) : Unbroken (clockText minutes) := by
  have hours := unbroken_twoDigits (minutes.toNat / 60)
  have hcolon : Unbroken ":" := by decide
  exact (hours.append hcolon).append (unbroken_twoDigits (minutes.toNat % 60))

theorem TimeSpan.unbroken_text (span : TimeSpan) : Unbroken span.text := by
  have hspan := (unbroken_clockText span.start).optionalText (show Unbroken "-" by decide)
    unbroken_clockText span.stop
  have hended : Unbroken (if span.openEnded then "+" else "") := by
    cases span.openEnded <;> decide
  exact (hspan.append hended).optionalText (by decide) unbroken_clockText span.interval

theorem Modifier.unbroken_text (modifier : Modifier) : Unbroken modifier.text := by
  cases modifier <;> decide

theorem CombinationKind.unbroken_separator (kind : CombinationKind) :
    Unbroken kind.separator := by
  cases kind <;> decide

end Selectors

namespace Rule

def commentBreaks (rule : Rule) : Nat :=
  lineBreaks (rule.comment.getD "")

def partBreaks (parts : List Part) : Nat :=
  (parts.map (fun part => lineBreaks part.text)).sum

theorem partBreaks_append (parts others : List Part) :
    partBreaks (parts ++ others) = partBreaks parts + partBreaks others := by
  rw [partBreaks, List.map_append, List.sum_append]
  rfl

theorem partBreaks_ofList {α : Type} (label : Label) {lead : String} (hlead : Unbroken lead)
    {write : α → String} (hwrite : ∀ a, Unbroken (write a)) (items : List α) :
    partBreaks (Part.ofList label lead (items.map write)) = 0 := by
  have hlist : Unbroken (commaList (items.map write)) := by
    apply unbroken_intercalate (by decide)
    intro text htext
    obtain ⟨a, -, rfl⟩ := List.mem_map.1 htext
    exact hwrite a
  rw [Part.ofList]
  split
  · rfl
  · have hitem : lineBreaks (lead ++ commaList (items.map write)) = 0 := hlead.append hlist
    simpa [partBreaks] using hitem

theorem partBreaks_ofOption {α : Type} (label : Label) {write : α → String}
    (hwrite : ∀ a, Unbroken (write a)) (field : Option α) :
    partBreaks (Part.ofOption label (field.map write)) = 0 := by
  cases field with
  | none => rfl
  | some a =>
      have hitem : lineBreaks (write a) = 0 := hwrite a
      simpa [Part.ofOption, partBreaks] using hitem

theorem partBreaks_comment (rule : Rule) :
    partBreaks (Part.ofOption .comment (rule.comment.map commentText)) = rule.commentBreaks := by
  have hquote : lineBreaks "\"" = 0 := by decide
  rw [commentBreaks]
  cases rule.comment with
  | none => rfl
  | some comment =>
      simp [Part.ofOption, partBreaks, commentText, lineBreaks_append, hquote]

/-- Of all parts only the comment can have line breaks. -/
theorem partBreaks_parts (rule : Rule) : partBreaks rule.parts = rule.commentBreaks := by
  have halways : partBreaks (if rule.always then [⟨.always, "24/7"⟩] else []) = 0 := by
    cases rule.always <;> decide
  rw [parts]
  simp only [partBreaks_append, halways, partBreaks_comment,
    partBreaks_ofList .years (show Unbroken "" by decide) YearRange.unbroken_text,
    partBreaks_ofList .dates (show Unbroken "" by decide) DateRange.unbroken_text,
    partBreaks_ofList .weeks (show Unbroken "week " by decide) WeekRange.unbroken_text,
    partBreaks_ofList .holidays (show Unbroken "" by decide) Holiday.unbroken_text,
    partBreaks_ofList .days (show Unbroken "" by decide) DayRange.unbroken_text,
    partBreaks_ofList .times (show Unbroken "" by decide) TimeSpan.unbroken_text,
    partBreaks_ofOption .modifier Modifier.unbroken_text, Nat.zero_add]

theorem lineBreaks_joinParts (parts : List Part) :
    lineBreaks (joinParts parts) = partBreaks parts := by
  induction parts using joinParts.induct with
  | case1 => rfl
  | case2 part => simp [joinParts, partBreaks]
  | case3 part next rest ih =>
      have hbetween : lineBreaks (between part.label next.label) = 0 := by
        cases part.label <;> cases next.label <;> decide
      rw [joinParts, lineBreaks_append, lineBreaks_append, hbetween, ih]
      rfl

theorem lineBreaks_labelled (part : Part) : lineBreaks (labelled part) = lineBreaks part.text := by
  have hname : lineBreaks part.label.name = 0 := by
    cases part.label <;> decide
  have hopening : lineBreaks "[" = 0 := by decide
  have hclosing : lineBreaks "]" = 0 := by decide
  simp [labelled, lineBreaks_append, hname, hopening, hclosing]

theorem lineBreaks_labelledText (rule : Rule) :
    lineBreaks rule.labelledText = partBreaks rule.parts := by
  have hblank : lineBreaks " " = 0 := by decide
  have htag : ((kindTag rule.kind).map lineBreaks).sum = 0 := by
    cases rule.kind <;> decide
  rw [labelledText, lineBreaks_intercalate, hblank, Nat.mul_zero, Nat.zero_add, List.map_append,
    List.sum_append, htag, Nat.zero_add, List.map_map]
  congr 1
  exact List.map_congr_left fun part _ => lineBreaks_labelled part

end Rule

/-- In either style the line breaks of a rule are those of its comment. -/
theorem Style.lineBreaks_write (style : Style) (rule : Rule) :
    lineBreaks (style.write rule) = rule.commentBreaks := by
  rw [← Rule.partBreaks_parts]
  cases style with
  | canonical => exact Rule.lineBreaks_joinParts rule.parts
  | labelled => exact Rule.lineBreaks_labelledText rule

end OpeningTimes

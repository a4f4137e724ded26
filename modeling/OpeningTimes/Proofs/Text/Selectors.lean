import OpeningTimes.Proofs.Text.Legible
import OpeningTimes.Selector.Day
import OpeningTimes.Selector.Time

/-!
Legible selectors.  A selector is stopped by the characters that may stand after it in a rule.
Two kinds of selector have a blank inside, so a blank alone does not stop them: a month must not
be followed by what could be its day, and a holiday not by what could be its shift.
-/

namespace OpeningTimes

open Text

def selectorEnds : List Char :=
  [' ', ',', ';', ']']

theorem Month.name_injective : Function.Injective Month.name := by
  intro month other h
  exact Option.some.inj (by rw [← month.ofName?_name, h, other.ofName?_name])

theorem Weekday.abbreviation_injective : Function.Injective Weekday.abbreviation := by
  intro day other h
  cases day <;> cases other <;> first | rfl | exact absurd h (by decide)

theorem HolidayKind.abbreviation_injective : Function.Injective HolidayKind.abbreviation := by
  intro kind other h
  cases kind <;> cases other <;> first | rfl | exact absurd h (by decide)

theorem Month.legible (stop : List Char → Prop) : Legible Month.name stop :=
  legible_of_length (n := 3) (fun month => by cases month <;> decide) Month.name_injective

theorem Weekday.legible (stop : List Char → Prop) : Legible Weekday.abbreviation stop :=
  legible_of_length (n := 2) (fun day => by cases day <;> decide)
    Weekday.abbreviation_injective

theorem HolidayKind.legible (stop : List Char → Prop) : Legible HolidayKind.abbreviation stop :=
  legible_of_length (n := 2) (fun kind => by cases kind <;> decide)
    HolidayKind.abbreviation_injective

section Numbered

variable {starts : List Char}

theorem legible_word (hstarts : starts.any Char.isDigit = false) :
    Legible (fun n : UInt16 => toString n.toNat) (Begins starts) :=
  (legible_toString hstarts).comp (fun _ _ h => UInt16.toNat_inj.1 h)

theorem legible_byte (hstarts : starts.any Char.isDigit = false) :
    Legible (fun n : UInt8 => toString n.toNat) (Begins starts) :=
  (legible_toString hstarts).comp (fun _ _ h => UInt8.toNat_inj.1 h)

theorem legible_twoDigits_byte (hstarts : starts.any Char.isDigit = false) :
    Legible (fun n : UInt8 => twoDigits n.toNat) (Begins starts) :=
  (legible_twoDigits hstarts).comp (fun _ _ h => UInt8.toNat_inj.1 h)

end Numbered

/-- A start, an optional end behind a dash, and an optional interval behind a slash. -/
theorem legible_stepped {α β : Type} {write : α → String} {step : β → String}
    (hwrite : ∀ starts, starts.any Char.isDigit = false → Legible write (Begins starts))
    (hstep : Legible step (Begins selectorEnds)) :
    Legible
      (fun range : (α × Option α) × Option β =>
        write range.1.1 ++ optionalText range.1.2 (fun stop => "-" ++ write stop)
          ++ optionalText range.2 (fun interval => "/" ++ step interval))
      (Begins selectorEnds) := by
  have hinterval := hstep.optionalLead "/" '/' (by decide) (by decide)
  have hstop := (hwrite ('/' :: selectorEnds) (by decide)).optionalLead "-" '-' (by decide)
    (by decide)
  have hstart := hwrite ('-' :: '/' :: selectorEnds) (by decide)
  have hspan := hstart.append (fun _ => hstop)
    (fun _ part _ hs => hs.optionalText "-" '-' (by decide) write part)
  have hrange := hspan.append (fun _ => hinterval)
    (fun _ part _ hs => hs.optionalText "/" '/' (by decide) step part)
  exact hrange

theorem YearRange.legible : Legible YearRange.text (Begins selectorEnds) :=
  (legible_stepped (fun _ => legible_word) (legible_word (by decide))).comp
    (f := fun range : YearRange => ((range.start, range.stop), range.interval))
    (fun range other h => by cases range; cases other; simpa [and_assoc] using h)

theorem WeekRange.legible : Legible WeekRange.text (Begins selectorEnds) :=
  (legible_stepped (fun _ => legible_twoDigits_byte) (legible_byte (by decide))).comp
    (f := fun range : WeekRange => ((range.start, range.stop), range.interval))
    (fun range other h => by cases range; cases other; simpa [and_assoc] using h)

/-- Hours and minutes are read apart because a colon stands between them. -/
theorem legible_clockText (starts : List Char) (hstarts : starts.any Char.isDigit = false) :
    Legible clockText (Begins starts) := by
  intro m n s t hs ht h
  have hcolon : ∀ u, Begins [':'] (":".toList ++ u) :=
    fun u => begins_cons (c := ':') (by decide) u
  simp only [clockText, String.toList_append, List.append_assoc] at h
  obtain ⟨hhours, hrest⟩ :=
    legible_twoDigits (by decide) _ _ _ _ (hcolon _) (hcolon _) h
  obtain ⟨hminutes, hst⟩ :=
    legible_twoDigits hstarts _ _ _ _ hs ht (List.append_cancel_left hrest)
  have htotal : m.toNat = n.toNat := by omega
  exact ⟨UInt16.toNat_inj.1 htotal, hst⟩

theorem TimeSpan.legible : Legible TimeSpan.text (Begins selectorEnds) := by
  have hinterval := (legible_clockText selectorEnds (by decide)).optionalLead "/" '/' (by decide)
    (by decide)
  have hopen : Legible (fun flag : Bool => if flag then "+" else "")
      (Begins ('/' :: selectorEnds)) :=
    legible_flag (fun s t _ ht h => absurd (ht '+' (by rw [← h]; rfl)) (by decide))
  have hflag : ∀ (flag : Bool) s, Begins ('/' :: selectorEnds) s →
      Begins ('+' :: '/' :: selectorEnds) ((if flag then "+" else "").toList ++ s) := by
    intro flag s hs
    cases flag with
    | false => simpa using hs.mono (List.subset_cons_self _ _)
    | true => exact begins_cons (c := '+') (by decide) s
  have hstop := (legible_clockText ('+' :: '/' :: selectorEnds) (by decide)).optionalLead "-" '-'
    (by decide) (by decide)
  have hstart := legible_clockText ('-' :: '+' :: '/' :: selectorEnds) (by decide)
  have hspan := hstart.append (fun _ => hstop)
    (fun _ part _ hs => hs.optionalText "-" '-' (by decide) clockText part)
  have hended := hspan.append (fun _ => hopen) (fun _ flag s hs => hflag flag s hs)
  have hwhole := hended.append (fun _ => hinterval)
    (fun _ part _ hs => hs.optionalText "/" '/' (by decide) clockText part)
  exact hwhole.comp
    (f := fun span : TimeSpan => (((span.start, span.stop), span.openEnded), span.interval))
    (fun span other h => by cases span; cases other; simpa [and_assoc] using h)

theorem legible_nthText {starts : List Char} (hstarts : '[' ∉ starts) :
    Legible nthText (Begins starts) := by
  have hitem : Legible (fun n : Int8 => toString n.toInt) (Begins [',', ']']) :=
    (legible_toString_int (by decide)).comp (fun _ _ h => Int8.toInt_inj.1 h)
  have hlist := legibleList_bracket hitem (fun _ hs => hs)
  exact hlist.legible_listText "[" "]"
    (fun s _ => begins_cons (c := ']') (by decide) s)
    (fun a s t _ ht h => hstarts (ht '[' (by rw [← h]; rfl)))

theorem DayRange.legible : Legible DayRange.text (Begins selectorEnds) := by
  have hnth : Legible nthText (Begins selectorEnds) := legible_nthText (by decide)
  have hbracket : ∀ (nth : List Int8) s, Begins selectorEnds s →
      Begins ('[' :: selectorEnds) ((nthText nth).toList ++ s) := by
    intro nth s hs
    cases nth with
    | nil => simpa [nthText] using hs.mono (List.subset_cons_self _ _)
    | cons n nth => simp [nthText, begins_cons]
  have hstop := (Weekday.legible (Begins ('[' :: selectorEnds))).optionalLead "-" '-' (by decide)
    (by decide)
  have hspan := (Weekday.legible (fun _ => True)).append (fun _ => hstop) (fun _ _ _ _ => trivial)
  have hwhole := hspan.append (fun _ => hnth) (fun _ nth s hs => hbracket nth s hs)
  exact hwhole.comp (f := fun range : DayRange => ((range.start, range.stop), range.nth))
    (fun range other h => by cases range; cases other; simpa [and_assoc] using h)

/-- The text does not start with what could be the shift of a holiday. -/
def NoShift (s : List Char) : Prop :=
  ∀ value t, s ≠ ' ' :: ((withSign value).toList ++ t)

theorem noShift_of_begins {starts : List Char} (hstarts : ' ' ∉ starts) {s : List Char}
    (hs : Begins starts s) : NoShift s :=
  fun _ _ h => hstarts (hs ' ' (by rw [h]; rfl))

theorem noShift_cons {c : Char} (hc : c ≠ ' ') (s : List Char) : NoShift (c :: s) :=
  fun _ _ h => hc (List.cons.inj h).1

theorem offsetText_zero : offsetText 0 = "" := by
  simp [offsetText]

theorem offsetText_of_ne {value : Int} (hvalue : value ≠ 0) :
    ∃ word, (offsetText value).toList = ' ' :: ((withSign value).toList ++ ' ' :: word) := by
  by_cases hone : value = 1 ∨ value = -1
  · exact ⟨"day".toList, by simp [offsetText, hvalue, hone]⟩
  · exact ⟨"days".toList, by simp [offsetText, hvalue, hone]⟩

theorem legible_offsetText : Legible offsetText NoShift := by
  intro m n s t hs ht h
  by_cases hm : m = 0
  · by_cases hn : n = 0
    · subst hm hn
      exact ⟨rfl, List.append_cancel_left h⟩
    · obtain ⟨word, hword⟩ := offsetText_of_ne hn
      subst hm
      rw [offsetText_zero, hword] at h
      exact absurd (by simpa using h) (hs n (' ' :: (word ++ t)))
  · obtain ⟨word, hword⟩ := offsetText_of_ne hm
    by_cases hn : n = 0
    · subst hn
      rw [offsetText_zero, hword] at h
      exact absurd (by simpa using h.symm) (ht m (' ' :: (word ++ s)))
    · obtain ⟨other, hother⟩ := offsetText_of_ne hn
      -- The number is read before the word after it, and then the words are the same too.
      have hblank : ∀ u, Begins [' '] (' ' :: u) := fun u => begins_cons (by decide) u
      have hvalue : m = n := by
        rw [hword, hother] at h
        simp only [List.cons_append, List.append_assoc] at h
        exact (legible_withSign (by decide) _ _ _ _ (hblank _) (hblank _)
          (List.cons.inj h).2).1
      subst hvalue
      exact ⟨rfl, List.append_cancel_left h⟩

theorem Holiday.legible : Legible Holiday.text NoShift := by
  have hoffset : Legible (fun offset : Int16 => offsetText offset.toInt) NoShift :=
    legible_offsetText.comp (fun _ _ h => Int16.toInt_inj.1 h)
  exact ((HolidayKind.legible (fun _ => True)).append (fun _ => hoffset)
    (fun _ _ _ _ => trivial)).comp (f := fun holiday : Holiday => (holiday.kind, holiday.offset))
    (fun holiday other h => by cases holiday; cases other; simpa using h)

def dayEnds : List Char :=
  '-' :: selectorEnds

/-- The text does not start with what could be the day of a month. -/
def NoDay (s : List Char) : Prop :=
  ∀ n t, Begins dayEnds t → s ≠ ' ' :: ((twoDigits n).toList ++ t)

theorem noDay_of_begins {starts : List Char} (hstarts : ' ' ∉ starts) {s : List Char}
    (hs : Begins starts s) : NoDay s :=
  fun _ _ _ h => hstarts (hs ' ' (by rw [h]; rfl))

theorem noDay_cons {c : Char} (hc : c ≠ ' ') (s : List Char) : NoDay (c :: s) :=
  fun _ _ _ h => hc (List.cons.inj h).1

theorem legible_day : Legible (fun day : UInt8 => twoDigits day.toNat) (Begins dayEnds) :=
  legible_twoDigits_byte (by decide)

theorem MonthDay.legible :
    Legible MonthDay.text (fun s => Begins dayEnds s ∧ NoDay s) := by
  have hday : Legible
      (fun part => optionalText part (fun day : UInt8 => " " ++ twoDigits day.toNat))
      (fun s => Begins dayEnds s ∧ NoDay s) := by
    refine ((legible_day.lead " ").mono (fun s hs => hs.1)).optionalText ?_
    intro day s t hs ht h
    exact ht.2 day.toNat s hs.1 (by simpa using h.symm)
  exact ((Month.legible (fun _ => True)).append (fun _ => hday) (fun _ _ _ _ => trivial)).comp
    (f := fun date : MonthDay => (date.month, date.day))
    (fun date other h => by cases date; cases other; simpa using h)

/-- Whether the second end of a span of dates is written without its month. -/
def MonthDay.shortens (start stop : MonthDay) : Prop :=
  start.day.isSome ∧ stop.day.isSome ∧ stop.month = start.month

theorem MonthDay.stopText_of_shortens {start stop : MonthDay} (hshort : start.shortens stop) :
    ∃ day, stop = ⟨start.month, some day⟩ ∧ start.stopText stop = twoDigits day.toNat := by
  obtain ⟨month, day⟩ := start
  obtain ⟨other, last⟩ := stop
  obtain ⟨hday, hlast, hmonth⟩ := hshort
  obtain ⟨first, rfl⟩ := Option.isSome_iff_exists.1 hday
  obtain ⟨last, rfl⟩ := Option.isSome_iff_exists.1 hlast
  obtain rfl : other = month := hmonth
  exact ⟨last, rfl, by simp [MonthDay.stopText]⟩

theorem MonthDay.stopText_of_not_shortens {start stop : MonthDay}
    (hlong : ¬ start.shortens stop) : start.stopText stop = stop.text := by
  obtain ⟨month, day⟩ := start
  obtain ⟨other, last⟩ := stop
  cases day with
  | none => rfl
  | some day =>
      cases last with
      | none => rfl
      | some last =>
          have hmonth : other ≠ month := fun h => hlong ⟨rfl, rfl, h⟩
          simp only [MonthDay.stopText, if_neg hmonth]

theorem Month.name_eq_cons (month : Month) :
    ∃ c u, month.name.toList = c :: u ∧ c.isDigit = false := by
  cases month <;> exact ⟨_, _, rfl, by decide⟩

theorem MonthDay.text_eq_cons (date : MonthDay) :
    ∃ c u, date.text.toList = c :: u ∧ c.isDigit = false := by
  obtain ⟨c, u, hname, hc⟩ := date.month.name_eq_cons
  refine ⟨c, u ++ (optionalText date.day (fun day => " " ++ twoDigits day.toNat)).toList, ?_, hc⟩
  rw [MonthDay.text, String.toList_append, hname, List.cons_append]

theorem MonthDay.twoDigits_ne_text (n : Nat) (date : MonthDay) (s t : List Char) :
    (twoDigits n).toList ++ s ≠ date.text.toList ++ t := by
  obtain ⟨c, u, hdigits, hc⟩ := twoDigits_eq_cons n
  obtain ⟨d, v, htext, hd⟩ := date.text_eq_cons
  rw [hdigits, htext]
  intro h
  rw [(List.cons.inj h).1, hd] at hc
  exact absurd hc (by decide)

/-- The second end of a span of dates is legible in view of the first one. -/
theorem MonthDay.legible_stopText (start : MonthDay) :
    Legible start.stopText (fun s => Begins dayEnds s ∧ NoDay s) := by
  intro stop other s t hs ht h
  by_cases hstop : start.shortens stop
  · obtain ⟨day, rfl, htext⟩ := stopText_of_shortens hstop
    by_cases hother : start.shortens other
    · obtain ⟨last, rfl, hlast⟩ := stopText_of_shortens hother
      rw [htext, hlast] at h
      obtain ⟨rfl, hst⟩ := legible_day day last s t hs.1 ht.1 h
      exact ⟨rfl, hst⟩
    · -- A day against the name of a month: the first characters differ.
      rw [htext, stopText_of_not_shortens hother] at h
      exact absurd h (twoDigits_ne_text _ _ _ _)
  · rw [stopText_of_not_shortens hstop] at h
    by_cases hother : start.shortens other
    · obtain ⟨last, rfl, hlast⟩ := stopText_of_shortens hother
      rw [hlast] at h
      exact absurd h.symm (twoDigits_ne_text _ _ _ _)
    · rw [stopText_of_not_shortens hother] at h
      exact MonthDay.legible stop other s t hs ht h

theorem DateRange.legible :
    Legible DateRange.text (fun s => Begins selectorEnds s ∧ NoDay s) := by
  have hends : ∀ s, Begins selectorEnds s ∧ NoDay s → Begins dayEnds s ∧ NoDay s :=
    fun s hs => ⟨hs.1.mono (List.subset_cons_self _ _), hs.2⟩
  have hstop : ∀ start : MonthDay,
      Legible (fun part => optionalText part (fun stop => "-" ++ start.stopText stop))
        (fun s => Begins selectorEnds s ∧ NoDay s) := by
    intro start
    refine ((start.legible_stopText.lead "-").mono hends).optionalText ?_
    intro stop s t _ ht h
    rw [String.toList_append] at h
    exact absurd (ht.1 '-' (by rw [← h]; rfl)) (by decide)
  have hbetween : ∀ (start : MonthDay) (part : Option MonthDay) s,
      Begins selectorEnds s ∧ NoDay s →
      Begins dayEnds ((optionalText part (fun stop => "-" ++ start.stopText stop)).toList ++ s)
        ∧ NoDay ((optionalText part (fun stop => "-" ++ start.stopText stop)).toList ++ s) := by
    intro start part s hs
    cases part with
    | none => exact hends s hs
    | some stop =>
        rw [optionalText, String.toList_append, List.append_assoc]
        exact ⟨begins_cons (c := '-') (by decide) _, noDay_cons (c := '-') (by decide) _⟩
  exact (MonthDay.legible.append hstop hbetween).comp
    (f := fun range : DateRange => (range.start, range.stop))
    (fun range other h => by cases range; cases other; simpa using h)

end OpeningTimes

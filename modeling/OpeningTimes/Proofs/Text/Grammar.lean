import OpeningTimes.Proofs.Text.Places

/-!
Texts of the grammar.  The parts of a rule carry no labels here, so their places are seen from
their first characters: letters in pairs, and digits by whether a colon comes after them.
-/

namespace OpeningTimes

open Text

/-- The pairs of letters that parts start with, and the places of these parts. -/
def initials : List (List Char × Nat) :=
  Month.all.map (fun month => (month.name.toList.take 2, Label.dates.place))
    ++ [(['w', 'e'], Label.weeks.place)]
    ++ [HolidayKind.publicHoliday, .schoolHoliday].map
      (fun kind => (kind.abbreviation.toList, Label.holidays.place))
    ++ Weekday.all.map (fun day => (day.abbreviation.toList, Label.days.place))
    ++ [Modifier.opened, .closed, .off, .unknown].map
      (fun modifier => (modifier.text.toList.take 2, Label.modifier.place))

/-- The place of a part that starts with letters, and zero for anything else. -/
def lettersPlace (s : List Char) : Nat :=
  (initials.lookup (s.take 2)).getD 0

/-- The place of a part that starts with digits. -/
def digitsPlace (s : List Char) : Nat :=
  if (s.dropWhile Char.isDigit).head? = some ':' then Label.times.place else Label.years.place

/-- The place of what a blank stands in front of. -/
def blankPlace : List Char → Nat
  | [] => 0
  | c :: s =>
      if c.isDigit then digitsPlace (c :: s)
      else if c = '|' then endPlace
      else if c = '"' then Label.comment.place
      else lettersPlace (c :: s)

/-- The place of what a comma stands in front of.  Only days can continue a list that is not
theirs. -/
def commaPlace : List Char → Nat
  | ' ' :: _ => endPlace
  | s => if lettersPlace s = Label.days.place then Label.days.place else 0

/-- The place of what a text of the grammar starts with. -/
def plainPlace : List Char → Nat
  | [] => endPlace
  | ' ' :: s => blankPlace s
  | ',' :: s => commaPlace s
  | ';' :: _ => endPlace
  | _ => 0

theorem plainPlace_of_endsRule {s : List Char} (hs : EndsRule s) : plainPlace s = endPlace := by
  rcases hs with rfl | ⟨kind, u, rfl⟩
  · rfl
  · cases kind <;> rfl

theorem begins_of_plainPlace {s : List Char} (hs : 0 < plainPlace s) :
    Begins selectorEnds s := by
  rw [plainPlace.eq_def] at hs
  split at hs
  · exact begins_nil _
  · exact begins_cons (by decide) _
  · exact begins_cons (by decide) _
  · exact begins_cons (by decide) _
  · exact absurd hs (Nat.lt_irrefl 0)

theorem plainPlace_digits {digits t : List Char} (hne : digits ≠ [])
    (hdigits : ∀ c ∈ digits, c.isDigit = true) (ht : ∀ c ∈ t.head?, c.isDigit = false) :
    plainPlace (' ' :: (digits ++ t))
      = if t.head? = some ':' then Label.times.place else Label.years.place := by
  have hdrop : (digits ++ t).dropWhile Char.isDigit = t := by
    rw [List.dropWhile_append_of_pos hdigits]
    cases t with
    | nil => rfl
    | cons c t => simp [ht c rfl]
  obtain ⟨c, u, rfl⟩ := List.exists_cons_of_ne_nil hne
  have hc := hdigits c List.mem_cons_self
  rw [List.cons_append] at hdrop ⊢
  rw [plainPlace, blankPlace, if_pos hc, digitsPlace, hdrop]

theorem lettersPlace_eq_zero {c : Char}
    (hc : initials.any (fun pair => pair.1.head? == some c) = false) (s : List Char) :
    lettersPlace (c :: s) = 0 := by
  have hnone : initials.lookup ((c :: s).take 2) = none := by
    rw [List.lookup_eq_none_iff]
    intro pair hpair
    rw [bne_iff_ne]
    intro heq
    have hhead : pair.1.head? = some c := by rw [← heq]; rfl
    exact List.any_eq_false.1 hc pair hpair (by rw [hhead, beq_self_eq_true])
  rw [lettersPlace, hnone]
  rfl

theorem lettersPlace_of_isDigit {c : Char} (hc : c.isDigit = true) (s : List Char) :
    lettersPlace (c :: s) = 0 := by
  have hletters : initials.any (fun pair => pair.1.head?.any Char.isDigit) = false := by decide
  refine lettersPlace_eq_zero ?_ s
  rw [List.any_eq_false]
  intro pair hpair hhead
  refine List.any_eq_false.1 hletters pair hpair ?_
  rw [beq_iff_eq.1 hhead]
  exact hc

theorem plainPlace_comma_digit {c : Char} (hc : c.isDigit = true) (s : List Char) :
    plainPlace (',' :: c :: s) = 0 := by
  have hblank : c ≠ ' ' := by
    rintro rfl
    exact absurd hc (by decide)
  rw [plainPlace, commaPlace, lettersPlace_of_isDigit hc]
  · rfl
  · simpa using hblank

theorem plainPlace_month (month : Month) (s : List Char) :
    plainPlace (' ' :: (month.name.toList ++ s)) = Label.dates.place := by
  cases month <;> simp [Month.name] <;> rfl

theorem plainPlace_comma_month (month : Month) (s : List Char) :
    plainPlace (',' :: (month.name.toList ++ s)) = 0 := by
  cases month <;> simp [Month.name] <;> rfl

theorem plainPlace_weekday (day : Weekday) (s : List Char) :
    plainPlace (' ' :: (day.abbreviation.toList ++ s)) = Label.days.place := by
  cases day <;> simp [Weekday.abbreviation] <;> rfl

theorem plainPlace_comma_weekday (day : Weekday) (s : List Char) :
    plainPlace (',' :: (day.abbreviation.toList ++ s)) = Label.days.place := by
  cases day <;> simp [Weekday.abbreviation] <;> rfl

theorem plainPlace_holiday (kind : HolidayKind) (s : List Char) :
    plainPlace (' ' :: (kind.abbreviation.toList ++ s)) = Label.holidays.place := by
  cases kind <;> simp [HolidayKind.abbreviation] <;> rfl

theorem plainPlace_comma_holiday (kind : HolidayKind) (s : List Char) :
    plainPlace (',' :: (kind.abbreviation.toList ++ s)) = 0 := by
  cases kind <;> simp [HolidayKind.abbreviation] <;> rfl

theorem plainPlace_modifier (modifier : Modifier) (s : List Char) :
    plainPlace (' ' :: (modifier.text.toList ++ s)) = Label.modifier.place := by
  cases modifier <;> simp [Modifier.text] <;> rfl

/-- A number does not come where only later places are left. -/
theorem noDay_of_plainPlace {s : List Char} (hs : Label.dates.place < plainPlace s) :
    NoDay s := by
  intro n t ht h
  obtain ⟨c, u, hcons, hc⟩ := twoDigits_eq_cons n
  have hne : (twoDigits n).toList ≠ [] := by simp [hcons]
  have hhead : ∀ c ∈ t.head?, c.isDigit = false := ht.eq_false (by decide)
  have hcolon : t.head? ≠ some ':' := fun h => absurd (ht ':' h) (by decide)
  rw [h, plainPlace_digits hne (fun _ => isDigit_of_mem_twoDigits) hhead, if_neg hcolon] at hs
  exact absurd hs (by decide)

/-- A sign has no place at all. -/
theorem noShift_of_plainPlace {s : List Char} (hs : 0 < plainPlace s) : NoShift s := by
  have hminus : ∀ u, plainPlace (' ' :: '-' :: u) = 0 :=
    fun u => lettersPlace_eq_zero (c := '-') (by decide) u
  have hplus : ∀ u, plainPlace (' ' :: '+' :: u) = 0 :=
    fun u => lettersPlace_eq_zero (c := '+') (by decide) u
  intro value t h
  rw [toList_withSign] at h
  by_cases hneg : value < 0
  · rw [if_pos hneg, List.cons_append, List.nil_append, List.cons_append] at h
    rw [h, hminus] at hs
    exact absurd hs (Nat.lt_irrefl 0)
  · rw [if_neg hneg, List.cons_append, List.nil_append, List.cons_append] at h
    rw [h, hplus] at hs
    exact absurd hs (Nat.lt_irrefl 0)

theorem toList_opening_plain (joins : Bool) {label : Label} (hlabel : label ≠ .days) :
    ((Frame.plain joins).opening label).toList = [' '] := by
  rw [Frame.opening_plain_of_ne_days joins hlabel]
  rfl

section Fills

variable {α : Type} {write : α → String} {itemStop : List Char → Prop}

/-- A list of the grammar fills its place when its first item shows the place and further items
do not show a later one. -/
theorem fills_plain_list {joins : Bool} {label : Label} {lead : String} {c : Char}
    (hopening : ((Frame.plain joins).opening label).toList = [c]) (hitem : Legible write itemStop)
    (hlast : ∀ s, label.place < plainPlace s → itemStop s) (hcomma : ∀ s, itemStop (',' :: s))
    (hfurther : ∀ a s, itemStop s → plainPlace (',' :: ((write a).toList ++ s)) ≤ label.place)
    (hplace : ∀ a s, itemStop s →
      plainPlace (c :: (lead.toList ++ ((write a).toList ++ s))) = label.place) :
    Fills plainPlace label.place label.place ((Frame.plain joins).list label lead write) id := by
  have hlist : LegibleList write (fun s => label.place < plainPlace s) itemStop :=
    { item := hitem
      last := hlast
      comma := hcomma
      further := fun a s t hs ht h => Nat.not_lt.2 (hfurther a s hs) (by rw [h]; exact ht) }
  refine fills_listText hlist (fun s hs => hs) ?_
  intro a s hs
  rw [String.toList_append, hopening, List.append_assoc]
  exact hplace a s hs

theorem begins_of_lt_plainPlace {n : Nat} {s : List Char} (hs : n < plainPlace s) :
    Begins selectorEnds s :=
  begins_of_plainPlace (Nat.lt_of_le_of_lt (Nat.zero_le n) hs)

end Fills

theorem begins_comma (s : List Char) : Begins selectorEnds (',' :: s) :=
  begins_cons (by decide) s

theorem YearRange.text_append (range : YearRange) {s : List Char} (hs : Begins selectorEnds s) :
    ∃ t, range.text.toList ++ s = (toString range.start.toNat).toList ++ t
      ∧ Begins ('-' :: '/' :: selectorEnds) t := by
  have hrest := (hs.optionalText "/" '/' (by decide) (fun n : UInt16 => toString n.toNat)
    range.interval).optionalText "-" '-' (by decide) (fun n : UInt16 => toString n.toNat) range.stop
  refine ⟨_, ?_, hrest⟩
  simp only [YearRange.text, String.toList_append, List.append_assoc]

theorem plainPlace_yearRange (range : YearRange) {s : List Char} (hs : Begins selectorEnds s) :
    plainPlace (' ' :: (range.text.toList ++ s)) = Label.years.place := by
  obtain ⟨t, htext, ht⟩ := range.text_append hs
  have hhead : ∀ c ∈ t.head?, c.isDigit = false := ht.eq_false (by decide)
  have hcolon : t.head? ≠ some ':' := fun h => absurd (ht ':' h) (by decide)
  rw [htext, plainPlace_digits (by simp) (fun _ => isDigit_of_mem_toString) hhead,
    if_neg hcolon]

theorem plainPlace_timeSpan (span : TimeSpan) (s : List Char) :
    plainPlace (' ' :: (span.text.toList ++ s)) = Label.times.place := by
  obtain ⟨t, htext⟩ : ∃ t, span.text.toList ++ s
      = (twoDigits (span.start.toNat / 60)).toList ++ ':' :: t := by
    simp only [TimeSpan.text, clockText, String.toList_append, List.append_assoc]
    exact ⟨_, rfl⟩
  obtain ⟨c, u, hcons, -⟩ := twoDigits_eq_cons (span.start.toNat / 60)
  rw [htext, plainPlace_digits (by simp [hcons]) (fun _ => isDigit_of_mem_twoDigits) (by simp),
    List.head?_cons, if_pos rfl]

theorem fills_plain_years (joins : Bool) :
    Fills plainPlace Label.years.place Label.years.place
      ((Frame.plain joins).list .years "" YearRange.text) id := by
  refine fills_plain_list (toList_opening_plain joins (by decide)) YearRange.legible
    (fun _ hs => begins_of_lt_plainPlace hs) begins_comma ?_ ?_
  · intro range s hs
    obtain ⟨t, htext, -⟩ := range.text_append hs
    obtain ⟨c, u, hcons, hc⟩ := toString_eq_cons range.start.toNat
    rw [htext, hcons, List.cons_append, plainPlace_comma_digit hc]
    exact Nat.zero_le _
  · intro range s hs
    rw [String.toList_empty, List.nil_append, plainPlace_yearRange range hs]

theorem fills_plain_dates (joins : Bool) :
    Fills plainPlace Label.dates.place Label.dates.place
      ((Frame.plain joins).list .dates "" DateRange.text) id := by
  have hmonth : ∀ (range : DateRange) (s : List Char),
      ∃ t, range.text.toList ++ s = range.start.month.name.toList ++ t := by
    intro range s
    simp only [DateRange.text, MonthDay.text, String.toList_append, List.append_assoc]
    exact ⟨_, rfl⟩
  refine fills_plain_list (toList_opening_plain joins (by decide)) DateRange.legible
    (fun _ hs => ⟨begins_of_lt_plainPlace hs, noDay_of_plainPlace hs⟩)
    (fun s => ⟨begins_comma s, noDay_cons (by decide) s⟩) ?_ ?_
  · intro range s _
    obtain ⟨t, htext⟩ := hmonth range s
    rw [htext, plainPlace_comma_month]
    exact Nat.zero_le _
  · intro range s _
    obtain ⟨t, htext⟩ := hmonth range s
    rw [String.toList_empty, List.nil_append, htext, plainPlace_month]

theorem fills_plain_weeks (joins : Bool) :
    Fills plainPlace Label.weeks.place Label.weeks.place
      ((Frame.plain joins).list .weeks "week " WeekRange.text) id := by
  refine fills_plain_list (toList_opening_plain joins (by decide)) WeekRange.legible
    (fun _ hs => begins_of_lt_plainPlace hs) begins_comma ?_ (fun _ _ _ => rfl)
  intro range s _
  obtain ⟨c, u, hcons, hc⟩ := twoDigits_eq_cons range.start.toNat
  simp only [WeekRange.text, String.toList_append, List.append_assoc, hcons, List.cons_append,
    plainPlace_comma_digit hc]
  exact Nat.zero_le _

theorem fills_plain_holidays (joins : Bool) :
    Fills plainPlace Label.holidays.place Label.holidays.place
      ((Frame.plain joins).list .holidays "" Holiday.text) id := by
  refine fills_plain_list (toList_opening_plain joins (by decide)) Holiday.legible
    (fun _ hs => noShift_of_plainPlace (Nat.lt_of_le_of_lt (Nat.zero_le _) hs))
    (fun s => noShift_cons (by decide) s) ?_ ?_
  · intro holiday s _
    rw [Holiday.text, String.toList_append, List.append_assoc, plainPlace_comma_holiday]
    exact Nat.zero_le _
  · intro holiday s _
    rw [String.toList_empty, List.nil_append, Holiday.text, String.toList_append,
      List.append_assoc, plainPlace_holiday]

/-- Days show their place behind a blank and behind a comma. -/
theorem fills_plain_days (joins : Bool) :
    Fills plainPlace Label.days.place Label.days.place
      ((Frame.plain joins).list .days "" DayRange.text) id := by
  have hday : ∀ (range : DayRange) (s : List Char),
      ∃ t, range.text.toList ++ s = range.start.abbreviation.toList ++ t := by
    intro range s
    simp only [DayRange.text, String.toList_append, List.append_assoc]
    exact ⟨_, rfl⟩
  have hopening : ((Frame.plain joins).opening .days).toList = [if joins then ',' else ' '] := by
    cases joins <;> rfl
  refine fills_plain_list hopening DayRange.legible (fun _ hs => begins_of_lt_plainPlace hs)
    begins_comma ?_ ?_
  · intro range s _
    obtain ⟨t, htext⟩ := hday range s
    rw [htext, plainPlace_comma_weekday]
  · intro range s _
    obtain ⟨t, htext⟩ := hday range s
    rw [String.toList_empty, List.nil_append, htext]
    cases joins with
    | false => exact plainPlace_weekday _ t
    | true => exact plainPlace_comma_weekday _ t

theorem fills_plain_times (joins : Bool) :
    Fills plainPlace Label.times.place Label.times.place
      ((Frame.plain joins).list .times "" TimeSpan.text) id := by
  refine fills_plain_list (toList_opening_plain joins (by decide)) TimeSpan.legible
    (fun _ hs => begins_of_lt_plainPlace hs) begins_comma ?_ ?_
  · intro span s _
    obtain ⟨c, u, hcons, hc⟩ := twoDigits_eq_cons (span.start.toNat / 60)
    simp only [TimeSpan.text, clockText, String.toList_append, List.append_assoc, hcons,
      List.cons_append, plainPlace_comma_digit hc]
    exact Nat.zero_le _
  · intro span s _
    rw [String.toList_empty, List.nil_append, plainPlace_timeSpan]

theorem fills_plain_modifier (joins : Bool) :
    Fills plainPlace Label.modifier.place Label.modifier.place
      ((Frame.plain joins).option .modifier Modifier.text) id := by
  have htail : Legible (fun modifier => Modifier.text modifier ++ (Frame.plain joins).closing)
      (fun s => Label.modifier.place < plainPlace s) :=
    (Modifier.legible (fun _ => True)).tail _ (fun _ _ => trivial)
  have hopening : ((Frame.plain joins).opening .modifier).toList = [' '] :=
    toList_opening_plain joins (by decide)
  refine fills_optionalText (htail.lead _) ?_
  intro modifier s
  simp only [String.toList_append, List.append_assoc, hopening]
  exact plainPlace_modifier modifier _

/-- The years whose text is that of a rule that always holds. -/
def YearRange.likeAlways : YearRange :=
  ⟨24, none, some 7⟩

theorem YearRange.text_likeAlways : YearRange.likeAlways.text = "24/7" := by
  decide

/-- What the text tells about whether a rule always holds and about its years: a rule that always
holds and names no years reads like one that names certain years. -/
def headTold (head : Bool × List YearRange) : Bool × List YearRange :=
  if head = (true, []) then (false, [YearRange.likeAlways]) else head

def headText (joins : Bool) (head : Bool × List YearRange) : String :=
  (Frame.plain joins).flag .always "24/7" head.1
    ++ (Frame.plain joins).list .years "" YearRange.text head.2

section Head

variable {joins : Bool}

theorem toList_headText_false (years : List YearRange) :
    (headText joins (false, years)).toList
      = ((Frame.plain joins).list .years "" YearRange.text years).toList := by
  simp [headText, Frame.flag]

theorem toList_headText_true (years : List YearRange) :
    (headText joins (true, years)).toList
      = ' ' :: (YearRange.likeAlways.text.toList
        ++ ((Frame.plain joins).list .years "" YearRange.text years).toList) := by
  rw [headText, YearRange.text_likeAlways]
  simp [Frame.flag, Frame.plain]

theorem toList_years_cons (joins : Bool) (range : YearRange) (years : List YearRange)
    (s : List Char) :
    ((Frame.plain joins).list .years "" YearRange.text (range :: years)).toList ++ s
      = ' ' :: (range.text.toList ++ (afterCommas YearRange.text years ++ s)) := by
  rw [Frame.list, toList_listText_cons, String.toList_append, Frame.closing_plain,
    String.toList_empty, toList_opening_plain joins (by decide)]
  rfl

theorem begins_afterCommas {α : Type} (write : α → String) (items : List α) {s : List Char}
    (hs : Begins selectorEnds s) : Begins selectorEnds (afterCommas write items ++ s) := by
  cases items with
  | nil => exact hs
  | cons item items => exact begins_comma _

theorem toList_headText_headTold (head : Bool × List YearRange) :
    (headText joins (headTold head)).toList = (headText joins head).toList := by
  rw [headTold]
  split
  · next hhead =>
      have hyears := toList_years_cons joins YearRange.likeAlways [] []
      rw [hhead, toList_headText_false, toList_headText_true, ← List.append_nil (String.toList _),
        hyears]
      rfl
  · rfl

/-- Years after the sign that a rule always holds are not read as a list of years alone. -/
theorem headText_true_ne (range : YearRange) (years others : List YearRange) {s t : List Char}
    (hs : Label.years.place < plainPlace s) (ht : Label.years.place < plainPlace t) :
    (headText joins (true, range :: years)).toList ++ s
      ≠ (headText joins (false, others)).toList ++ t := by
  have hrange : ∀ u, Begins selectorEnds u →
      plainPlace (' ' :: (range.text.toList ++ (afterCommas YearRange.text years ++ u)))
        = Label.years.place :=
    fun u hu => plainPlace_yearRange range (begins_afterCommas _ years hu)
  have hsends := begins_of_lt_plainPlace hs
  intro h
  rw [toList_headText_true, toList_headText_false, List.cons_append, List.append_assoc,
    toList_years_cons] at h
  have hblank : Begins selectorEnds
      (' ' :: (range.text.toList ++ (afterCommas YearRange.text years ++ s))) :=
    begins_cons (by decide) _
  cases others with
  | nil =>
      have hplace := plainPlace_yearRange YearRange.likeAlways hblank
      rw [h] at hplace
      exact absurd hplace (Nat.ne_of_gt ht)
  | cons other others =>
      -- Both texts start with the same years; a blank or a comma after them makes the difference.
      rw [toList_years_cons] at h
      obtain ⟨-, hrest⟩ := YearRange.legible YearRange.likeAlways other _ _ hblank
        (begins_afterCommas _ others (begins_of_lt_plainPlace ht)) (List.cons.inj h).2
      cases others with
      | nil =>
          have hplace := hrange s hsends
          rw [hrest] at hplace
          exact absurd hplace (Nat.ne_of_gt ht)
      | cons next others => exact absurd (List.cons.inj hrest).1 (by decide)

theorem headTold_ne (head : Bool × List YearRange) : headTold head ≠ (true, []) := by
  rw [headTold]
  split
  · simp
  · next hhead => exact hhead

theorem headText_reads {head other : Bool × List YearRange} (hhead : head ≠ (true, []))
    (hother : other ≠ (true, [])) {s t : List Char} (hs : Label.years.place < plainPlace s)
    (ht : Label.years.place < plainPlace t)
    (h : (headText joins head).toList ++ s = (headText joins other).toList ++ t) :
    head = other ∧ s = t := by
  have hreads := (fills_plain_years joins).reads
  obtain ⟨always, years⟩ := head
  obtain ⟨holds, others⟩ := other
  cases always with
  | false =>
      cases holds with
      | false =>
          rw [toList_headText_false, toList_headText_false] at h
          obtain ⟨hyears, hst⟩ := hreads years others s t hs ht h
          exact ⟨congrArg (Prod.mk false) hyears, hst⟩
      | true =>
          obtain ⟨range, others, rfl⟩ := List.exists_cons_of_ne_nil (l := others)
            (fun hnil => hother (by rw [hnil]))
          exact absurd h.symm (headText_true_ne range others years ht hs)
  | true =>
      cases holds with
      | false =>
          obtain ⟨range, years, rfl⟩ := List.exists_cons_of_ne_nil (l := years)
            (fun hnil => hhead (by rw [hnil]))
          exact absurd h (headText_true_ne range years others hs ht)
      | true =>
          rw [toList_headText_true, toList_headText_true, List.cons_append, List.cons_append,
            List.append_assoc, List.append_assoc] at h
          obtain ⟨hyears, hst⟩ := hreads years others s t hs ht
            (List.append_cancel_left (List.cons.inj h).2)
          exact ⟨congrArg (Prod.mk true) hyears, hst⟩

theorem fills_plain_head (joins : Bool) :
    Fills plainPlace Label.years.place Label.years.place (headText joins) headTold where
  reads := by
    intro head other s t hs ht h
    rw [← toList_headText_headTold head, ← toList_headText_headTold other] at h
    exact headText_reads (headTold_ne head) (headTold_ne other) hs ht h
  first_le := by
    intro head s hs
    obtain ⟨always, years⟩ := head
    cases always with
    | false =>
        rw [toList_headText_false]
        exact (fills_plain_years joins).first_le years s hs
    | true =>
        have hfollow : Begins selectorEnds
            (((Frame.plain joins).list .years "" YearRange.text years).toList ++ s) := by
          cases years with
          | nil => exact begins_of_lt_plainPlace hs
          | cons range years =>
              rw [toList_years_cons]
              exact begins_cons (by decide) _
        rw [toList_headText_true, List.cons_append, List.append_assoc,
          plainPlace_yearRange YearRange.likeAlways hfollow]

end Head

/-- What the text of a rule tells, apart from the comment. -/
def Rule.plainTold (rule : Rule) :=
  (((((headTold (rule.always, rule.years), rule.dates), rule.weeks),
    (rule.holidays, rule.days)), rule.times), rule.modifier)

theorem fills_plain_front :
    Fills plainPlace 2 8 (fun rule : Rule => (Frame.plain rule.joins).front rule)
      Rule.plainTold := by
  have hhead := (fills_plain_head false).comap (fun rule : Rule => (rule.always, rule.years))
  have hdates := (fills_plain_dates false).comap Rule.dates
  have hweeks := (fills_plain_weeks false).comap Rule.weeks
  have hholidays := (fills_plain_holidays false).comap Rule.holidays
  have hdays : ∀ holidays : List Holiday, Fills plainPlace 6 6
      (fun rule : Rule =>
        (Frame.plain (!holidays.isEmpty)).list .days "" DayRange.text rule.days) Rule.days :=
    fun holidays => (fills_plain_days _).comap Rule.days
  have htimes := (fills_plain_times false).comap Rule.times
  have hmodifier := (fills_plain_modifier false).comap Rule.modifier
  have hdaySelectors := hholidays.appendTold hdays (by decide)
  exact ((((hhead.append hdates (by decide)).append hweeks (by decide)).append hdaySelectors
    (by decide)).append htimes (by decide)).append hmodifier (by decide)

end OpeningTimes

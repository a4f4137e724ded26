import OpeningTimes.Proofs.Text.Legible
import OpeningTimes.Rule.Basic

/-!
Framed parts.  Both texts of a rule are its parts one after the other, each in a frame of its own
that starts with what separates it from the part before.
-/

namespace OpeningTimes

open Text

/-- What stands around the parts of a rule. -/
structure Frame where
  opening : Label → String
  closing : String

namespace Frame

/-- The frame of the grammar.  Days continue the list of the holidays when there are any. -/
def plain (joins : Bool) : Frame where
  opening
    | .days => if joins then "," else " "
    | _ => " "
  closing := ""

def labelled : Frame where
  opening label := " " ++ label.name ++ "["
  closing := "]"

def text (frame : Frame) (parts : List Part) : List Char :=
  parts.flatMap (fun part => (frame.opening part.label ++ part.text ++ frame.closing).toList)

def flag (frame : Frame) (label : Label) (word : String) (present : Bool) : String :=
  if present then frame.opening label ++ word ++ frame.closing else ""

def list {α : Type} (frame : Frame) (label : Label) (lead : String) (write : α → String)
    (items : List α) : String :=
  listText (frame.opening label ++ lead) frame.closing write items

def option {α : Type} (frame : Frame) (label : Label) (write : α → String) (part : Option α) :
    String :=
  optionalText part (fun a => frame.opening label ++ (write a ++ frame.closing))

/-- The framed parts of a rule up to the modifier. -/
def front (frame : Frame) (rule : Rule) : String :=
  frame.flag .always "24/7" rule.always
    ++ frame.list .years "" YearRange.text rule.years
    ++ frame.list .dates "" DateRange.text rule.dates
    ++ frame.list .weeks "week " WeekRange.text rule.weeks
    ++ (frame.list .holidays "" Holiday.text rule.holidays
      ++ frame.list .days "" DayRange.text rule.days)
    ++ frame.list .times "" TimeSpan.text rule.times
    ++ frame.option .modifier Modifier.text rule.modifier

theorem opening_plain_of_ne_days (joins : Bool) {label : Label} (hlabel : label ≠ .days) :
    (plain joins).opening label = " " := by
  cases label <;> first | rfl | exact absurd rfl hlabel

theorem opening_plain_false (label : Label) : (plain false).opening label = " " := by
  cases label <;> rfl

theorem closing_plain (joins : Bool) : (plain joins).closing = "" :=
  rfl

theorem text_append (frame : Frame) (parts others : List Part) :
    frame.text (parts ++ others) = frame.text parts ++ frame.text others :=
  List.flatMap_append

theorem text_ofList {α : Type} (frame : Frame) (label : Label) (lead : String)
    (write : α → String) (items : List α) :
    frame.text (Part.ofList label lead (items.map write))
      = (frame.list label lead write items).toList := by
  cases items with
  | nil => simp [text, Part.ofList, list, listText]
  | cons item items => simp [text, Part.ofList, list, listText]

theorem text_ofOption {α : Type} (frame : Frame) (label : Label) (write : α → String)
    (part : Option α) :
    frame.text (Part.ofOption label (part.map write))
      = (frame.option label write part).toList := by
  cases part with
  | none => simp [text, Part.ofOption, option, optionalText]
  | some a => simp [text, Part.ofOption, option, optionalText]

theorem text_ofFlag (frame : Frame) (label : Label) (word : String) (present : Bool) :
    frame.text (if present then [⟨label, word⟩] else [])
      = (frame.flag label word present).toList := by
  cases present <;> simp [text, flag]

/-- The comment is framed last. -/
theorem text_parts (frame : Frame) (rule : Rule) :
    frame.text rule.parts
      = (frame.front rule).toList
        ++ (frame.option .comment Rule.commentText rule.comment).toList := by
  simp only [Rule.parts, front, text_append, text_ofList, text_ofOption, text_ofFlag,
    String.toList_append, List.append_assoc]

end Frame

namespace Rule

/-- The parts with what stands in front of each, when a part with the label stands before. -/
def trail (before : Label) : List Part → List Char
  | [] => []
  | part :: rest => (between before part.label ++ part.text).toList ++ trail part.label rest

theorem trail_always {parts : List Part} (hparts : parts ≠ []) :
    trail .always parts = ' ' :: (joinParts parts).toList := by
  have hjoin : ∀ (part : Part) (rest : List Part),
      (joinParts (part :: rest)).toList = part.text.toList ++ trail part.label rest := by
    intro part rest
    induction rest generalizing part with
    | nil => simp [joinParts, trail]
    | cons next rest ih => simp [joinParts, trail, ih next]
  cases parts with
  | nil => exact absurd rfl hparts
  | cons part rest => simp [trail, hjoin, between]

theorem between_of_ne_days (before : Label) {label : Label} (hlabel : label ≠ .days) :
    between before label = " " := by
  cases before <;> cases label <;> first | rfl | exact absurd rfl hlabel

theorem between_of_ne_holidays {before : Label} (hbefore : before ≠ .holidays) (label : Label) :
    between before label = " " := by
  cases before <;> first | rfl | exact absurd rfl hbefore

theorem trail_of_not_days (joins : Bool) (before : Label) {parts : List Part}
    (hparts : ∀ part ∈ parts, part.label ≠ .days) :
    trail before parts = (Frame.plain joins).text parts := by
  induction parts generalizing before with
  | nil => rfl
  | cons part rest ih =>
      have hpart := hparts part List.mem_cons_self
      have hrest := ih part.label (fun next hnext => hparts next (List.mem_cons_of_mem part hnext))
      rw [trail, hrest, between_of_ne_days before hpart]
      simp [Frame.text, Frame.opening_plain_of_ne_days joins hpart, Frame.closing_plain]

theorem trail_of_not_holidays {before : Label} (hbefore : before ≠ .holidays) {parts : List Part}
    (hparts : ∀ part ∈ parts, part.label ≠ .holidays) :
    trail before parts = (Frame.plain false).text parts := by
  induction parts generalizing before with
  | nil => rfl
  | cons part rest ih =>
      have hrest := ih (hparts part List.mem_cons_self)
        (fun next hnext => hparts next (List.mem_cons_of_mem part hnext))
      rw [trail, hrest, between_of_ne_holidays hbefore]
      simp [Frame.text, Frame.opening_plain_false, Frame.closing_plain]

/-- Up to a part that is not about days, the part alone decides how the next one is joined. -/
theorem trail_append_cons (joins : Bool) (before : Label) {parts : List Part}
    (hparts : ∀ part ∈ parts, part.label ≠ .days) {next : Part} (hnext : next.label ≠ .days)
    (rest : List Part) :
    trail before (parts ++ next :: rest)
      = (Frame.plain joins).text (parts ++ [next]) ++ trail next.label rest := by
  induction parts generalizing before with
  | nil =>
      rw [List.nil_append, trail, between_of_ne_days before hnext]
      simp [Frame.text, Frame.opening_plain_of_ne_days joins hnext, Frame.closing_plain]
  | cons part parts ih =>
      have hpart := hparts part List.mem_cons_self
      have hrest := ih part.label
        (fun other hother => hparts other (List.mem_cons_of_mem part hother))
      rw [List.cons_append, trail, hrest, between_of_ne_days before hpart]
      simp [Frame.text, Frame.opening_plain_of_ne_days joins hpart, Frame.closing_plain]

theorem parts_eq_nil_iff (rule : Rule) : rule.parts = [] ↔ rule.isEmpty = true := by
  have hlist : ∀ (label : Label) (lead : String) (items : List String),
      Part.ofList label lead items = [] ↔ items = [] := by
    intro label lead items
    cases items <;> simp [Part.ofList]
  have hoption : ∀ (label : Label) (part : Option String),
      Part.ofOption label part = [] ↔ part = none := by
    intro label part
    cases part <;> simp [Part.ofOption]
  simp [parts, isEmpty, hlist, hoption, and_assoc]

theorem parts_ne_nil {rule : Rule} (hfilled : rule.isEmpty = false) : rule.parts ≠ [] := by
  intro hnil
  rw [(parts_eq_nil_iff rule).1 hnil] at hfilled
  exact absurd hfilled (by decide)

def early (rule : Rule) : List Part :=
  (if rule.always then [⟨.always, "24/7"⟩] else [])
    ++ Part.ofList .years "" (rule.years.map YearRange.text)
    ++ Part.ofList .dates "" (rule.dates.map DateRange.text)
    ++ Part.ofList .weeks "week " (rule.weeks.map WeekRange.text)

def late (rule : Rule) : List Part :=
  Part.ofList .times "" (rule.times.map TimeSpan.text)
    ++ Part.ofOption .modifier (rule.modifier.map Modifier.text)
    ++ Part.ofOption .comment (rule.comment.map commentText)

theorem parts_eq (rule : Rule) :
    rule.parts
      = rule.early
        ++ (Part.ofList .holidays "" (rule.holidays.map Holiday.text)
          ++ (Part.ofList .days "" (rule.days.map DayRange.text) ++ rule.late)) := by
  simp only [parts, early, late, List.append_assoc]

theorem label_of_mem_ofList {label : Label} {lead : String} {items : List String} {part : Part}
    (hpart : part ∈ Part.ofList label lead items) : part.label = label := by
  rw [Part.ofList] at hpart
  split at hpart
  · simp at hpart
  · rw [List.mem_singleton.1 hpart]

theorem label_of_mem_ofOption {label : Label} {text : Option String} {part : Part}
    (hpart : part ∈ Part.ofOption label text) : part.label = label := by
  cases text with
  | none => simp [Part.ofOption] at hpart
  | some text => rw [List.mem_singleton.1 hpart]

theorem label_of_mem_early {rule : Rule} {part : Part} (hpart : part ∈ rule.early) :
    part.label ∈ [Label.always, .years, .dates, .weeks] := by
  simp only [early, List.mem_append] at hpart
  rcases hpart with ((halways | hyears) | hdates) | hweeks
  · split at halways
    · simp [List.mem_singleton.1 halways]
    · simp at halways
  · simp [label_of_mem_ofList hyears]
  · simp [label_of_mem_ofList hdates]
  · simp [label_of_mem_ofList hweeks]

theorem label_of_mem_late {rule : Rule} {part : Part} (hpart : part ∈ rule.late) :
    part.label ∈ [Label.times, .modifier, .comment] := by
  simp only [late, List.mem_append] at hpart
  rcases hpart with (htimes | hmodifier) | hcomment
  · simp [label_of_mem_ofList htimes]
  · simp [label_of_mem_ofOption hmodifier]
  · simp [label_of_mem_ofOption hcomment]

theorem ne_days_of_mem_early {rule : Rule} {part : Part} (hpart : part ∈ rule.early) :
    part.label ≠ .days :=
  fun hlabel => absurd (hlabel ▸ label_of_mem_early hpart) (by decide)

theorem ne_days_of_mem_late {rule : Rule} {part : Part} (hpart : part ∈ rule.late) :
    part.label ≠ .days :=
  fun hlabel => absurd (hlabel ▸ label_of_mem_late hpart) (by decide)

/-- Whether the rule names holidays, so that its days continue their list. -/
def joins (rule : Rule) : Bool :=
  !rule.holidays.isEmpty

theorem trail_parts_of_no_holidays {rule : Rule} (hnone : rule.holidays = []) :
    trail .always rule.parts = (Frame.plain false).text rule.parts := by
  refine trail_of_not_holidays (by decide) ?_
  intro part hpart hlabel
  rw [parts_eq, hnone] at hpart
  simp only [List.mem_append] at hpart
  rcases hpart with hearly | hholidays | hdays | hlate
  · exact absurd (hlabel ▸ label_of_mem_early hearly) (by decide)
  · simp [Part.ofList] at hholidays
  · exact absurd (hlabel ▸ label_of_mem_ofList hdays) (by decide)
  · exact absurd (hlabel ▸ label_of_mem_late hlate) (by decide)

/-- Behind the holidays, days are joined by a comma and everything else by a blank. -/
theorem trail_holidays (days : List String) (rule : Rule) :
    trail .holidays (Part.ofList .days "" days ++ rule.late)
      = (Frame.plain true).text (Part.ofList .days "" days ++ rule.late) := by
  have hlate : ∀ before, trail before rule.late = (Frame.plain true).text rule.late :=
    fun before => trail_of_not_days true before (fun _ => ne_days_of_mem_late)
  rw [Part.ofList]
  split
  · exact hlate .holidays
  · rw [Frame.text_append, List.singleton_append, trail, hlate]
    simp [Frame.text, Frame.plain, between]

theorem trail_parts_of_holidays {rule : Rule} (hsome : rule.holidays ≠ []) :
    trail .always rule.parts = (Frame.plain true).text rule.parts := by
  obtain ⟨holiday, holidays, hcons⟩ := List.exists_cons_of_ne_nil hsome
  have hpart : ∃ text, Part.ofList .holidays "" (rule.holidays.map Holiday.text)
      = [⟨.holidays, text⟩] := by
    rw [hcons]
    exact ⟨_, rfl⟩
  obtain ⟨text, hpart⟩ := hpart
  have hnext : (Part.mk .holidays text).label ≠ .days := by simp
  have hearly : ∀ part ∈ rule.early, part.label ≠ .days := fun _ => ne_days_of_mem_early
  have hfront := trail_append_cons true .always hearly hnext
    (Part.ofList .days "" (rule.days.map DayRange.text) ++ rule.late)
  rw [parts_eq, hpart, List.singleton_append, hfront, trail_holidays, ← Frame.text_append,
    List.append_assoc, List.singleton_append]

theorem trail_parts (rule : Rule) :
    trail .always rule.parts = (Frame.plain rule.joins).text rule.parts := by
  cases hholidays : rule.holidays with
  | nil => rw [trail_parts_of_no_holidays hholidays, joins, hholidays]; rfl
  | cons holiday holidays =>
      rw [trail_parts_of_holidays (by simp [hholidays]), joins, hholidays]
      rfl

/-- The text of a rule, with a blank in front, is its parts in the frame of the grammar. -/
theorem toList_text {rule : Rule} (hparts : rule.parts ≠ []) :
    ' ' :: rule.text.toList = (Frame.plain rule.joins).text rule.parts := by
  rw [text, ← trail_always hparts, trail_parts]

theorem toList_text_eq_tail (rule : Rule) :
    rule.text.toList = ((Frame.plain rule.joins).text rule.parts).tail := by
  by_cases hparts : rule.parts = []
  · rw [text, hparts]
    rfl
  · rw [← toList_text hparts, List.tail_cons]

/-- The kind when the labelled text names it. -/
def tagged : CombinationKind → Option CombinationKind
  | .normal => none
  | kind => some kind

theorem tagged_injective : Function.Injective tagged := by
  intro kind other h
  cases kind <;> cases other <;> first | rfl | exact absurd h (by decide)

def kindText (kind : CombinationKind) : String :=
  optionalText (tagged kind) (fun kind => " kind[" ++ (kind.name ++ "]"))

/-- The labelled text, with a blank in front, is the kind and the parts, each with its label,
unless it consists of nothing. -/
theorem toList_labelledText_of_ne {rule : Rule}
    (hne : kindTag rule.kind ++ rule.parts.map labelled ≠ []) :
    ' ' :: rule.labelledText.toList
      = (kindText rule.kind).toList ++ Frame.labelled.text rule.parts := by
  have hblanks : ∀ (word : String) (words : List String),
      ' ' :: (String.intercalate " " (word :: words)).toList
        = (word :: words).flatMap (fun word => ' ' :: word.toList) := by
    intro word words
    induction words generalizing word with
    | nil => simp
    | cons next words ih =>
        rw [String.intercalate_cons_cons, String.toList_append, List.flatMap_cons, ← ih next]
        simp
  have hframed : (rule.parts.map labelled).flatMap (fun word => ' ' :: word.toList)
      = Frame.labelled.text rule.parts := by
    rw [Frame.text, List.flatMap_map]
    simp [labelled, Frame.labelled]
  obtain ⟨word, words, hcons⟩ := List.exists_cons_of_ne_nil hne
  rw [labelledText, hcons, hblanks, ← hcons, List.flatMap_append, hframed]
  cases rule.kind <;> simp [kindTag, kindText, tagged, optionalText, CombinationKind.name]

theorem toList_labelledText {rule : Rule} (hparts : rule.parts ≠ []) :
    ' ' :: rule.labelledText.toList
      = (kindText rule.kind).toList ++ Frame.labelled.text rule.parts :=
  toList_labelledText_of_ne (by simp [hparts])

end Rule

end OpeningTimes

import Mathlib.Data.List.ReduceOption
import OpeningTimes.Rule.Basic

/-!
Sections of a text.  The fields that a rule fills are listed here under their names in the order of
the grammar.  With labels a rule shows this list as it is; without them it shows the list of their
texts, in which holidays and days are one section.
-/

namespace OpeningTimes

/-- The items with commas between them, unless there are none. -/
def listed (items : List String) : Option String :=
  if items = [] then none else some (String.intercalate "," items)

/-- The word that tells the kind of a rule among its labelled fields. -/
def CombinationKind.tag : CombinationKind → Option String
  | .normal => none
  | .additive => some "kind[additive]"
  | .fallback => some "kind[fallback]"

/-- The fields that are filled, with their names. -/
def filledFields (fields : List (String × Option String)) : List (String × String) :=
  fields.filterMap (fun field => field.2.map (Prod.mk field.1))

/-- The texts of fields without the names.  Days continue the list of the holidays. -/
def unlabelled : List (String × String) → List String
  | [] => []
  | [field] => [field.2]
  | field :: next :: rest =>
      if field.1 = "holidays" ∧ next.1 = "days" then
        (field.2 ++ "," ++ next.2) :: unlabelled rest
      else field.2 :: unlabelled (next :: rest)

/-- The text of a field in brackets behind its name. -/
def labelledField (field : String × String) : String :=
  field.1 ++ "[" ++ field.2 ++ "]"

namespace Rule

/-- The fields of a rule that leave something in its text, in the order of the grammar. -/
def shownFields (rule : Rule) : List (String × String) :=
  filledFields
    [("always", if rule.always then some "24/7" else none),
      ("years", listed (rule.years.map YearRange.text)),
      ("dates", listed (rule.dates.map DateRange.text)),
      ("weeks", (listed (rule.weeks.map WeekRange.text)).map ("week " ++ ·)),
      ("holidays", listed (rule.holidays.map Holiday.text)),
      ("days", listed (rule.days.map DayRange.text)),
      ("times", listed (rule.times.map TimeSpan.text)),
      ("modifier", rule.modifier.map Modifier.text),
      ("comment", rule.comment.map (fun comment => "\"" ++ comment ++ "\""))]

/-- The sections of the text of a rule in the order of the grammar.  Holidays and days are
selected together. -/
def sections (rule : Rule) : List String :=
  [if rule.always then some "24/7" else none,
    listed (rule.years.map YearRange.text),
    listed (rule.dates.map DateRange.text),
    (listed (rule.weeks.map WeekRange.text)).map ("week " ++ ·),
    listed (rule.holidays.map Holiday.text ++ rule.days.map DayRange.text),
    listed (rule.times.map TimeSpan.text),
    rule.modifier.map Modifier.text,
    rule.comment.map (fun comment => "\"" ++ comment ++ "\"")].reduceOption

end Rule

section Unlabelled

variable {field next : String × String} {fields rest : List (String × String)}

theorem unlabelled_cons_of_ne_holidays (hfield : field.1 ≠ "holidays")
    (rest : List (String × String)) : unlabelled (field :: rest) = field.2 :: unlabelled rest := by
  cases rest with
  | nil => rfl
  | cons next rest => rw [unlabelled, if_neg (fun h => hfield h.1)]

theorem unlabelled_cons_of_no_days (field : String × String)
    (hrest : ∀ next ∈ rest, next.1 ≠ "days") :
    unlabelled (field :: rest) = field.2 :: unlabelled rest := by
  cases rest with
  | nil => rfl
  | cons next rest => rw [unlabelled, if_neg (fun h => hrest next List.mem_cons_self h.2)]

theorem unlabelled_holidays_days (holidays days : String) (rest : List (String × String)) :
    unlabelled (("holidays", holidays) :: ("days", days) :: rest)
      = (holidays ++ "," ++ days) :: unlabelled rest := by
  rw [unlabelled, if_pos ⟨rfl, rfl⟩]

theorem unlabelled_append_of_no_holidays (hfields : ∀ field ∈ fields, field.1 ≠ "holidays")
    (rest : List (String × String)) :
    unlabelled (fields ++ rest) = fields.map Prod.snd ++ unlabelled rest := by
  induction fields with
  | nil => rfl
  | cons field fields ih =>
      obtain ⟨hfield, hfields⟩ := List.forall_mem_cons.1 hfields
      rw [List.cons_append, unlabelled_cons_of_ne_holidays hfield, ih hfields]
      rfl

theorem unlabelled_ne_nil (field : String × String) (rest : List (String × String)) :
    unlabelled (field :: rest) ≠ [] := by
  cases rest with
  | nil => simp [unlabelled]
  | cons next rest =>
      rw [unlabelled]
      split <;> simp

end Unlabelled

def Part.field (part : Part) : String × String :=
  (part.label.name, part.text)

namespace Rule

theorem between_eq (label next : Label) :
    between label next
      = if label.name = "holidays" ∧ next.name = "days" then "," else " " := by
  cases label <;> cases next <;> rfl

/-- Joining parts puts blanks between what is left when their labels are dropped. -/
theorem joinParts_eq_intercalate (parts : List Part) :
    joinParts parts = String.intercalate " " (unlabelled (parts.map Part.field)) := by
  induction parts using joinParts.induct with
  | case1 => rfl
  | case2 part => simp [joinParts, unlabelled, Part.field]
  | case3 part next rest ih =>
      rw [joinParts, ih, between_eq, List.map_cons, List.map_cons]
      by_cases hjoined : part.label.name = "holidays" ∧ next.label.name = "days"
      · have hnext : next.label.name ≠ "holidays" := fun h => absurd (h ▸ hjoined.2) (by decide)
        have hfirst : unlabelled (next.field :: rest.map Part.field)
            = next.text :: unlabelled (rest.map Part.field) :=
          unlabelled_cons_of_ne_holidays hnext _
        rw [if_pos hjoined, hfirst, ← String.intercalate_cons_append]
        exact congrArg (String.intercalate " ") (if_pos hjoined).symm
      · have hne := unlabelled_ne_nil next.field (rest.map Part.field)
        rw [if_neg hjoined, ← String.intercalate_cons_of_ne_nil hne]
        exact congrArg (String.intercalate " ") (if_neg hjoined).symm

end Rule

section Fields

variable {fields : List (String × Option String)}

theorem filledFields_append (fields others : List (String × Option String)) :
    filledFields (fields ++ others) = filledFields fields ++ filledFields others :=
  List.filterMap_append

theorem map_snd_filledFields (fields : List (String × Option String)) :
    (filledFields fields).map Prod.snd = (fields.map Prod.snd).reduceOption := by
  induction fields with
  | nil => rfl
  | cons field fields ih =>
      obtain ⟨name, text⟩ := field
      cases text with
      | none => exact ih
      | some text => exact congrArg (List.cons text) ih

theorem ne_of_mem_filledFields {name : String} (hname : name ∉ fields.map Prod.fst) :
    ∀ field ∈ filledFields fields, field.1 ≠ name := by
  rintro field hfield rfl
  apply hname
  obtain ⟨⟨name, text⟩, hmem, hsome⟩ := List.mem_filterMap.1 hfield
  obtain ⟨text, -, rfl⟩ := Option.map_eq_some_iff.1 hsome
  exact List.mem_map_of_mem hmem

theorem listed_append {items others : List String} (hitems : items ≠ []) (hothers : others ≠ []) :
    listed (items ++ others)
      = some (String.intercalate "," items ++ "," ++ String.intercalate "," others) := by
  rw [listed, if_neg (by simp [hitems]), String.intercalate_append_of_ne_nil hitems hothers]

/-- Without their names the holidays and the days are one list. -/
theorem unlabelled_dayFields (holidays days : List String) {rest : List (String × String)}
    (hrest : ∀ field ∈ rest, field.1 ≠ "days") :
    unlabelled (filledFields [("holidays", listed holidays), ("days", listed days)] ++ rest)
      = [listed (holidays ++ days)].reduceOption ++ unlabelled rest := by
  cases holidays with
  | nil =>
      cases days with
      | nil => rfl
      | cons day days =>
          change unlabelled (("days", _) :: rest) = _ :: unlabelled rest
          exact unlabelled_cons_of_ne_holidays (by simp) rest
  | cons holiday holidays =>
      cases days with
      | nil =>
          rw [List.append_nil]
          exact unlabelled_cons_of_no_days ("holidays", _) hrest
      | cons day days =>
          rw [listed_append (by simp) (by simp)]
          exact unlabelled_holidays_days _ _ rest

end Fields

namespace Rule

theorem map_field_ofList (label : Label) (lead : String) (items : List String) :
    (Part.ofList label lead items).map Part.field
      = filledFields [(label.name, (listed items).map (lead ++ ·))] := by
  cases items <;> rfl

theorem map_field_ofOption (label : Label) (text : Option String) :
    (Part.ofOption label text).map Part.field = filledFields [(label.name, text)] := by
  cases text <;> rfl

theorem map_field_ofFlag (label : Label) (text : String) (flag : Bool) :
    (if flag then [Part.mk label text] else []).map Part.field
      = filledFields [(label.name, if flag then some text else none)] := by
  cases flag <;> rfl

/-- The parts of a rule are its fields. -/
theorem map_field_parts (rule : Rule) : rule.parts.map Part.field = rule.shownFields := by
  have hlead : ∀ items : List String, (listed items).map ("" ++ ·) = listed items := by
    intro items
    cases listed items <;> simp
  simp only [parts, List.map_append, map_field_ofList, map_field_ofOption, map_field_ofFlag,
    hlead, ← filledFields_append]
  rfl

/-- Without their names the fields of a rule are its sections. -/
theorem unlabelled_shownFields (rule : Rule) : unlabelled rule.shownFields = rule.sections := by
  -- The fields before the holidays, the holidays and the days, and the fields after the days.
  have hsplit : rule.shownFields
      = filledFields
          [("always", if rule.always then some "24/7" else none),
            ("years", listed (rule.years.map YearRange.text)),
            ("dates", listed (rule.dates.map DateRange.text)),
            ("weeks", (listed (rule.weeks.map WeekRange.text)).map ("week " ++ ·))]
        ++ (filledFields
            [("holidays", listed (rule.holidays.map Holiday.text)),
              ("days", listed (rule.days.map DayRange.text))]
          ++ filledFields
            [("times", listed (rule.times.map TimeSpan.text)),
              ("modifier", rule.modifier.map Modifier.text),
              ("comment", rule.comment.map (fun comment => "\"" ++ comment ++ "\""))]) := by
    rw [← filledFields_append, ← filledFields_append]
    rfl
  have hlate : ∀ fields : List (String × Option String), "holidays" ∉ fields.map Prod.fst →
      unlabelled (filledFields fields) = (fields.map Prod.snd).reduceOption := by
    intro fields hfields
    have hall := unlabelled_append_of_no_holidays (ne_of_mem_filledFields hfields) []
    rwa [List.append_nil, unlabelled, List.append_nil, map_snd_filledFields] at hall
  rw [hsplit, unlabelled_append_of_no_holidays (ne_of_mem_filledFields (by simp)),
    unlabelled_dayFields _ _ (ne_of_mem_filledFields (by simp)), hlate _ (by simp),
    map_snd_filledFields, ← List.reduceOption_append, ← List.reduceOption_append]
  rfl

theorem kindTag_eq (kind : CombinationKind) : kindTag kind = kind.tag.toList := by
  cases kind <;> rfl

/-- The text of a rule is its sections with blanks between them.  Its labelled text is the tag of
its kind and its fields with their names, and the text is what is left of the fields when their
names are dropped and the blank between holidays and days is made a comma. -/
theorem text_and_labelledText_eq (rule : Rule) :
    rule.text = String.intercalate " " rule.sections ∧
      rule.labelledText
        = String.intercalate " " (rule.kind.tag.toList ++ rule.shownFields.map labelledField) ∧
      rule.text = String.intercalate " " (unlabelled rule.shownFields) := by
  have htext : rule.text = String.intercalate " " (unlabelled rule.shownFields) := by
    rw [text, joinParts_eq_intercalate, map_field_parts]
  refine ⟨?_, ?_, htext⟩
  · rw [htext, unlabelled_shownFields]
  · rw [labelledText, kindTag_eq, ← map_field_parts, List.map_map]
    rfl

end Rule

end OpeningTimes

import Mathlib.Data.List.Basic
import OpeningTimes.Proofs.Joining
import OpeningTimes.Proofs.Rule.Framed
import OpeningTimes.Proofs.Text.Sections
import OpeningTimes.Proofs.Text.Selectors

/-!
Edges of texts.  Separators are made of four characters, and what they separate neither starts nor
ends with one of these.  This holds of every selector, and is kept when selectors are joined to
parts, parts to rules and rules to a rendering.
-/

namespace OpeningTimes

namespace Text

/-- The characters that separators are made of. -/
def separatorMarks : List Char :=
  [' ', ';', ',', '|']

/-- There is a text, and what it starts and ends with is not taken for a separator. -/
@[mk_iff]
structure Solid (text : String) : Prop where
  ne_empty : text ≠ ""
  first : ∀ c ∈ text.toList.head?, c ∉ separatorMarks
  last : ∀ c ∈ text.toList.getLast?, c ∉ separatorMarks

instance (text : String) : Decidable (Solid text) :=
  decidable_of_iff
    (text ≠ "" ∧ text.toList.head?.all (fun c => !separatorMarks.contains c) = true
      ∧ text.toList.getLast?.all (fun c => !separatorMarks.contains c) = true)
    (by simp [solid_iff, Option.all_eq_true])

theorem Solid.toList_ne_nil {text : String} (htext : Solid text) : text.toList ≠ [] := by
  intro hnil
  apply htext.ne_empty
  exact String.toList_inj.1 hnil

/-- Only the edges count. -/
theorem Solid.around {front back : String} (hfront : Solid front) (between : String)
    (hback : Solid back) : Solid (front ++ between ++ back) where
  ne_empty := by
    intro hempty
    have hnil := congrArg String.toList hempty
    rw [String.toList_append, String.toList_append, String.toList_empty] at hnil
    exact hback.toList_ne_nil (List.append_eq_nil_iff.1 hnil).2
  first := by
    intro c hc
    apply hfront.first c
    rwa [String.toList_append, String.toList_append, List.append_assoc,
      List.head?_append_of_ne_nil _ hfront.toList_ne_nil] at hc
  last := by
    intro c hc
    apply hback.last c
    rwa [String.toList_append, List.getLast?_append_of_ne_nil _ hback.toList_ne_nil] at hc

theorem Solid.append {front back : String} (hfront : Solid front) (hback : Solid back) :
    Solid (front ++ back) := by
  simpa using hfront.around "" hback

theorem solid_of_isDigit {text : String} (hne : text ≠ "")
    (hdigits : ∀ c ∈ text.toList, c.isDigit = true) : Solid text := by
  have hdigit : separatorMarks.any Char.isDigit = false := by decide
  have hmark : ∀ c ∈ text.toList, c ∉ separatorMarks := by
    intro c hc hmark
    exact List.any_eq_false.1 hdigit c hmark (hdigits c hc)
  constructor
  · exact hne
  · exact fun c hc => hmark c (List.mem_of_mem_head? hc)
  · exact fun c hc => hmark c (List.mem_of_mem_getLast? hc)

theorem solid_toString (n : Nat) : Solid (toString n) := by
  apply solid_of_isDigit
  · obtain ⟨c, u, hcons, -⟩ := toString_eq_cons n
    intro hempty
    simp [hempty] at hcons
  · exact fun _ => isDigit_of_mem_toString

theorem solid_twoDigits (n : Nat) : Solid (twoDigits n) := by
  apply solid_of_isDigit
  · obtain ⟨c, u, hcons, -⟩ := twoDigits_eq_cons n
    intro hempty
    simp [hempty] at hcons
  · exact fun _ => isDigit_of_mem_twoDigits

section Joined

variable {α : Type} {write : α → String} {text : String}

/-- An optional part moves the end of a text to its own end. -/
theorem Solid.optionalText (htext : Solid text) (lead : String) (hwrite : ∀ a, Solid (write a))
    (part : Option α) : Solid (text ++ optionalText part (fun a => lead ++ write a)) := by
  cases part with
  | none => simpa [OpeningTimes.optionalText] using htext
  | some a =>
      rw [OpeningTimes.optionalText, ← String.append_assoc]
      exact htext.around lead (hwrite a)

theorem solid_intercalate (separator : String) {texts : List String} (hne : texts ≠ [])
    (htexts : ∀ text ∈ texts, Solid text) : Solid (String.intercalate separator texts) := by
  induction texts with
  | nil => exact absurd rfl hne
  | cons text texts ih =>
      obtain ⟨htext, hrest⟩ := List.forall_mem_cons.1 htexts
      by_cases hnil : texts = []
      · rwa [hnil, String.intercalate_singleton]
      · rw [String.intercalate_cons_of_ne_nil hnil]
        exact htext.around separator (ih hnil hrest)

end Joined

end Text

open Text

theorem YearRange.solid_text (range : YearRange) : Solid range.text := by
  have hspan := (solid_toString range.start.toNat).optionalText "-"
    (fun stop : UInt16 => solid_toString stop.toNat) range.stop
  exact hspan.optionalText "/" (fun interval : UInt16 => solid_toString interval.toNat)
    range.interval

theorem MonthDay.solid_text (date : MonthDay) : Solid date.text := by
  have hmonth : Solid date.month.name := by
    cases date.month <;> decide
  exact hmonth.optionalText " " (fun day : UInt8 => solid_twoDigits day.toNat) date.day

theorem MonthDay.solid_stopText (start stop : MonthDay) : Solid (start.stopText stop) := by
  by_cases hshort : start.shortens stop
  · obtain ⟨day, -, htext⟩ := stopText_of_shortens hshort
    rw [htext]
    exact solid_twoDigits day.toNat
  · rw [stopText_of_not_shortens hshort]
    exact stop.solid_text

theorem DateRange.solid_text (range : DateRange) : Solid range.text :=
  range.start.solid_text.optionalText "-" range.start.solid_stopText range.stop

theorem WeekRange.solid_text (range : WeekRange) : Solid range.text := by
  have hspan := (solid_twoDigits range.start.toNat).optionalText "-"
    (fun stop : UInt8 => solid_twoDigits stop.toNat) range.stop
  exact hspan.optionalText "/" (fun interval : UInt8 => solid_toString interval.toNat)
    range.interval

/-- A shift ends with a word, whatever its sign and its number are. -/
theorem Holiday.solid_text (holiday : Holiday) : Solid holiday.text := by
  have hkind : Solid holiday.kind.abbreviation := by
    cases holiday.kind <;> decide
  have hshifted : ∀ sign word : String, Solid word →
      Solid (holiday.kind.abbreviation ++ (" " ++ sign ++ (" " ++ word))) := by
    intro sign word hword
    have hwhole := hkind.around (" " ++ sign ++ " ") hword
    simpa only [String.append_assoc] using hwhole
  rw [Holiday.text, offsetText]
  split
  · rwa [String.append_empty]
  · split
    · exact hshifted _ "day" (by decide)
    · exact hshifted _ "days" (by decide)

theorem Weekday.solid_abbreviation (day : Weekday) : Solid day.abbreviation := by
  cases day <;> decide

theorem DayRange.solid_text (range : DayRange) : Solid range.text := by
  have hspan := range.start.solid_abbreviation.optionalText "-" Weekday.solid_abbreviation
    range.stop
  rw [DayRange.text, nthText]
  split
  · rwa [String.append_empty]
  · have hclosing : Solid "]" := by decide
    have hwhole := hspan.around ("[" ++ commaList (range.nth.map (fun n => toString n.toInt)))
      hclosing
    simpa only [String.append_assoc] using hwhole

theorem solid_clockText (minutes : UInt16) : Solid (clockText minutes) :=
  (solid_twoDigits (minutes.toNat / 60)).around ":" (solid_twoDigits (minutes.toNat % 60))

theorem TimeSpan.solid_text (span : TimeSpan) : Solid span.text := by
  have hspan := (solid_clockText span.start).optionalText "-" solid_clockText span.stop
  have hended : Solid (clockText span.start
      ++ optionalText span.stop (fun stop => "-" ++ clockText stop)
      ++ (if span.openEnded then "+" else "")) := by
    cases span.openEnded with
    | false => simpa using hspan
    | true => exact hspan.append (by decide)
  exact hended.optionalText "/" solid_clockText span.interval

theorem Modifier.solid_text (modifier : Modifier) : Solid modifier.text := by
  cases modifier <;> decide

namespace Rule

/-- A comment has its quotes at the edges, whatever it contains. -/
theorem solid_commentText (comment : String) : Solid (commentText comment) := by
  have hquote : Solid "\"" := by decide
  exact hquote.around comment hquote

theorem solid_of_mem_ofList {α : Type} {label : Label} {lead : String} {write : α → String}
    {items : List α} {part : Part} (hwrite : ∀ a, Solid (write a))
    (hlead : ∀ text, Solid text → Solid (lead ++ text))
    (hpart : part ∈ Part.ofList label lead (items.map write)) : Solid part.text := by
  cases items with
  | nil => simp [Part.ofList] at hpart
  | cons item items =>
      rw [List.mem_singleton.1 hpart]
      apply hlead
      apply solid_intercalate "," (by simp)
      intro text htext
      obtain ⟨a, -, rfl⟩ := List.mem_map.1 htext
      exact hwrite a

theorem solid_of_mem_ofOption {α : Type} {label : Label} {write : α → String} {field : Option α}
    {part : Part} (hwrite : ∀ a, Solid (write a))
    (hpart : part ∈ Part.ofOption label (field.map write)) : Solid part.text := by
  cases field with
  | none => simp [Part.ofOption] at hpart
  | some a =>
      rw [List.mem_singleton.1 hpart]
      exact hwrite a

theorem solid_of_mem_parts {rule : Rule} {part : Part} (hpart : part ∈ rule.parts) :
    Solid part.text := by
  have hnone : ∀ text, Solid text → Solid ("" ++ text) := by
    intro text htext
    rwa [String.empty_append]
  have hweek : ∀ text, Solid text → Solid ("week " ++ text) := by
    intro text htext
    have hword : Solid "week" := by decide
    exact hword.around " " htext
  simp only [parts, List.mem_append] at hpart
  rcases hpart with
    (((((((halways | hyears) | hdates) | hweeks) | hholidays) | hdays) | htimes) | hmodifier)
      | hcomment
  · split at halways
    · rw [List.mem_singleton.1 halways]
      decide
    · simp at halways
  · exact solid_of_mem_ofList YearRange.solid_text hnone hyears
  · exact solid_of_mem_ofList DateRange.solid_text hnone hdates
  · exact solid_of_mem_ofList WeekRange.solid_text hweek hweeks
  · exact solid_of_mem_ofList Holiday.solid_text hnone hholidays
  · exact solid_of_mem_ofList DayRange.solid_text hnone hdays
  · exact solid_of_mem_ofList TimeSpan.solid_text hnone htimes
  · exact solid_of_mem_ofOption Modifier.solid_text hmodifier
  · exact solid_of_mem_ofOption solid_commentText hcomment

theorem solid_joinParts {parts : List Part} (hne : parts ≠ [])
    (hparts : ∀ part ∈ parts, Solid part.text) : Solid (joinParts parts) := by
  induction parts using joinParts.induct with
  | case1 => exact absurd rfl hne
  | case2 part => exact hparts part List.mem_cons_self
  | case3 part next rest ih =>
      obtain ⟨hpart, hrest⟩ := List.forall_mem_cons.1 hparts
      exact hpart.around (between part.label next.label) (ih (by simp) hrest)

theorem solid_labelled (part : Part) : Solid (labelled part) := by
  have hname : Solid part.label.name := by
    cases part.label <;> decide
  have hclosing : Solid "]" := by decide
  have hwhole := hname.around ("[" ++ part.text) hclosing
  simpa only [labelled, String.append_assoc] using hwhole

theorem solid_of_mem_kindTag {kind : CombinationKind} {text : String}
    (htag : text ∈ kindTag kind) : Solid text := by
  cases kind with
  | normal => simp [kindTag] at htag
  | additive =>
      rw [List.mem_singleton.1 htag]
      decide
  | fallback =>
      rw [List.mem_singleton.1 htag]
      decide

theorem solid_text {rule : Rule} (hfilled : rule.isEmpty = false) : Solid rule.text :=
  solid_joinParts (parts_ne_nil hfilled) (fun _ => solid_of_mem_parts)

theorem solid_labelledText {rule : Rule} (hfilled : rule.isEmpty = false) :
    Solid rule.labelledText := by
  apply solid_intercalate
  · simp [parts_ne_nil hfilled]
  · intro text htext
    rcases List.mem_append.1 htext with htag | hpart
    · exact solid_of_mem_kindTag htag
    · obtain ⟨part, -, rfl⟩ := List.mem_map.1 hpart
      exact solid_labelled part

end Rule

open Joining

section Lists

variable {ρ : Type} [OpeningRule ρ] {write : ρ → String}

theorem solid_followers {text : String} (htext : Solid text) {rules : List ρ}
    (hrules : ∀ rule ∈ rules, Solid (write rule)) : Solid (text ++ followers write rules) := by
  induction rules generalizing text with
  | nil => simpa [followers] using htext
  | cons rule rules ih =>
      obtain ⟨hrule, hrest⟩ := List.forall_mem_cons.1 hrules
      rw [followers_cons, ← String.append_assoc, ← String.append_assoc]
      exact ih (htext.around (OpeningRule.kind rule).separator hrule) hrest

theorem solid_joinedText {rules : List ρ} (hne : rules ≠ [])
    (hrules : ∀ rule ∈ rules, Solid (write rule)) : Solid (joinedText write rules) := by
  cases rules with
  | nil => exact absurd rfl hne
  | cons rule rules =>
      obtain ⟨hrule, hrest⟩ := List.forall_mem_cons.1 hrules
      exact solid_followers hrule hrest

end Lists

def Style.write : Style → Rule → String
  | .canonical => Rule.text
  | .labelled => Rule.labelledText

theorem value_renderRules (style : Style) (rules : List Rule) :
    (renderRules style rules).value = joinedText style.write (filled rules) := by
  cases style with
  | canonical => exact value_joinRules Rule.text rules
  | labelled => exact value_joinRules Rule.labelledText rules

theorem Style.solid_write (style : Style) {rule : Rule} (hfilled : rule.isEmpty = false) :
    Solid (style.write rule) := by
  cases style with
  | canonical => exact Rule.solid_text hfilled
  | labelled => exact Rule.solid_labelledText hfilled

theorem Style.solid_write_of_mem_filled (style : Style) {rules : List Rule} :
    ∀ rule ∈ filled rules, Solid (style.write rule) :=
  fun _ hrule => style.solid_write (not_isEmpty_of_mem_filled hrule)

theorem filled_eq_nil_iff (rules : List Rule) :
    filled rules = [] ↔ ∀ rule ∈ rules, rule.isEmpty = true := by
  rw [filled, List.filter_eq_nil_iff]
  simp [OpeningRule.isEmpty]

theorem renderRules_cases (style : Style) (rules : List Rule) :
    ((∀ rule ∈ rules, rule.isEmpty = true) ∧ (renderRules style rules).value = "")
      ∨ ((¬ ∀ rule ∈ rules, rule.isEmpty = true) ∧ Solid (renderRules style rules).value) := by
  rw [← filled_eq_nil_iff, value_renderRules]
  by_cases hnone : filled rules = []
  · exact Or.inl ⟨hnone, by rw [hnone]; rfl⟩
  · exact Or.inr ⟨hnone, solid_joinedText hnone style.solid_write_of_mem_filled⟩

theorem Text.Solid.no_separator_at_edges {text : String} (htext : Solid text)
    (kind : CombinationKind) :
    ¬ kind.separator.toList <+: text.toList ∧ ¬ kind.separator.toList <:+ text.toList := by
  constructor
  · rintro ⟨rest, hrest⟩
    have hfirst := htext.first
    rw [← hrest] at hfirst
    cases kind <;> simp [CombinationKind.separator, separatorMarks] at hfirst
  · rintro ⟨rest, hrest⟩
    have hlast := htext.last
    rw [← hrest] at hlast
    cases kind <;> simp [CombinationKind.separator, separatorMarks] at hlast

theorem Rule.text_eq_empty_iff (rule : Rule) : rule.text = "" ↔ rule.isEmpty = true := by
  constructor
  · intro hnone
    by_contra hfilled
    exact (Rule.solid_text (eq_false_of_ne_true hfilled)).ne_empty hnone
  · intro hempty
    rw [Rule.text, (Rule.parts_eq_nil_iff rule).2 hempty]
    rfl

/-- With labels an empty rule shows its kind, and every other rule shows more than that. -/
theorem Rule.labelledText_eq_tag_iff (rule : Rule) :
    rule.labelledText = rule.kind.tag.getD "" ↔ rule.isEmpty = true := by
  constructor
  · intro htag
    by_contra hfilled
    have hsolid := Rule.solid_labelledText (eq_false_of_ne_true hfilled)
    have hparts := Rule.parts_ne_nil (eq_false_of_ne_true hfilled)
    cases hkind : rule.kind.tag with
    | none =>
        rw [hkind] at htag
        exact hsolid.ne_empty htag
    | some tag =>
        have hlonger : rule.labelledText
            = tag ++ " " ++ String.intercalate " " (rule.parts.map Rule.labelled) := by
          rw [Rule.labelledText, Rule.kindTag_eq, hkind]
          exact String.intercalate_cons_of_ne_nil (by simpa using hparts)
        rw [hkind, hlonger] at htag
        have hlist := congrArg String.toList htag
        simp at hlist
  · intro hempty
    rw [Rule.labelledText, (Rule.parts_eq_nil_iff rule).2 hempty, Rule.kindTag_eq]
    cases rule.kind.tag <;> simp

/-- A rule is empty exactly when it has no text, and exactly when its labelled text is the tag of
its kind.  A rendering is empty exactly when all its rules are.  Every other rendering has no
separator, and no character of a separator, at its edges; inside, each separator stands between two
texts of rules, which have none at their edges either. -/
theorem emptiness_agrees_with_text :
    (∀ rule : Rule, (rule.isEmpty = true ↔ rule.text = "") ∧
      (rule.isEmpty = true ↔ rule.labelledText = rule.kind.tag.getD "")) ∧
    ∀ (style : Style) (rules : List Rule),
      ((renderRules style rules).value = "" ↔ ∀ rule ∈ rules, rule.isEmpty = true) ∧
      ((renderRules style rules).value = "" ∨ Solid (renderRules style rules).value) ∧
      (∀ kind : CombinationKind,
        ¬ kind.separator.toList <+: (renderRules style rules).value.toList ∧
          ¬ kind.separator.toList <:+ (renderRules style rules).value.toList) ∧
      (renderRules style rules).value = joinedText style.write (filled rules) ∧
      ∀ rule ∈ filled rules, Solid (style.write rule) := by
  constructor
  · intro rule
    exact ⟨rule.text_eq_empty_iff.symm, rule.labelledText_eq_tag_iff.symm⟩
  · intro style rules
    rcases renderRules_cases style rules with ⟨hempty, hnone⟩ | ⟨hfilled, hsolid⟩
    · have hedges : ∀ kind : CombinationKind,
          ¬ kind.separator.toList <+: "".toList ∧ ¬ kind.separator.toList <:+ "".toList := by
        intro kind
        cases kind <;> decide
      exact ⟨⟨fun _ => hempty, fun _ => hnone⟩, Or.inl hnone, hnone ▸ hedges,
        value_renderRules style rules, style.solid_write_of_mem_filled⟩
    · exact ⟨⟨fun hnone => absurd hnone hsolid.ne_empty, fun hempty => absurd hempty hfilled⟩,
        Or.inr hsolid, hsolid.no_separator_at_edges, value_renderRules style rules,
        style.solid_write_of_mem_filled⟩

end OpeningTimes

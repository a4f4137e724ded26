import OpeningTimes.Rule.Contract
import OpeningTimes.Selector.Day
import OpeningTimes.Selector.Time

/-!
Rules.  A rule is a record of selectors, a modifier and a comment.  Its text and its labelled
text are two ways to write one list of parts, which stand in the order of the grammar.
-/

namespace OpeningTimes

/-- What a rule says about the times that it selects. -/
inductive Modifier where
  | opened
  | closed
  | off
  | unknown
deriving DecidableEq, Repr

def Modifier.text : Modifier → String
  | .opened => "open"
  | .closed => "closed"
  | .off => "off"
  | .unknown => "unknown"

/-- One clause of an opening-times text.  A rule that fills none of the fields after `kind` is
empty. -/
structure Rule where
  kind : CombinationKind := .normal
  always : Bool := false
  years : List YearRange := []
  dates : List DateRange := []
  weeks : List WeekRange := []
  holidays : List Holiday := []
  days : List DayRange := []
  times : List TimeSpan := []
  modifier : Option Modifier := none
  comment : Option String := none
deriving DecidableEq, Repr

inductive Label where
  | always
  | years
  | dates
  | weeks
  | holidays
  | days
  | times
  | modifier
  | comment
deriving DecidableEq, Repr

def Label.name : Label → String
  | .always => "always"
  | .years => "years"
  | .dates => "dates"
  | .weeks => "weeks"
  | .holidays => "holidays"
  | .days => "days"
  | .times => "times"
  | .modifier => "modifier"
  | .comment => "comment"

/-- A part of the text of a rule, with the field that it comes from. -/
structure Part where
  label : Label
  text : String
deriving DecidableEq, Repr

/-- The part that a list of selectors leaves: none when the list is empty. -/
def Part.ofList (label : Label) (lead : String) (items : List String) : List Part :=
  if items.isEmpty then [] else [⟨label, lead ++ Text.commaList items⟩]

/-- The part that an optional field leaves: none when the field is absent. -/
def Part.ofOption (label : Label) (text : Option String) : List Part :=
  match text with
  | none => []
  | some text => [⟨label, text⟩]

namespace Rule

/-- A comment stands between double quotes, exactly as it is. -/
def commentText (comment : String) : String :=
  "\"" ++ comment ++ "\""

def parts (rule : Rule) : List Part :=
  (if rule.always then [⟨.always, "24/7"⟩] else [])
    ++ Part.ofList .years "" (rule.years.map YearRange.text)
    ++ Part.ofList .dates "" (rule.dates.map DateRange.text)
    ++ Part.ofList .weeks "week " (rule.weeks.map WeekRange.text)
    ++ Part.ofList .holidays "" (rule.holidays.map Holiday.text)
    ++ Part.ofList .days "" (rule.days.map DayRange.text)
    ++ Part.ofList .times "" (rule.times.map TimeSpan.text)
    ++ Part.ofOption .modifier (rule.modifier.map Modifier.text)
    ++ Part.ofOption .comment (rule.comment.map commentText)

/-- The text between two neighbouring parts.  Days continue the list of the holidays. -/
def between : Label → Label → String
  | .holidays, .days => ","
  | _, _ => " "

/-- The parts one after the other, with what stands between neighbours. -/
def joinParts : List Part → String
  | [] => ""
  | [part] => part.text
  | part :: next :: rest =>
      part.text ++ between part.label next.label ++ joinParts (next :: rest)

/-- The text of the rule in the grammar. -/
def text (rule : Rule) : String :=
  joinParts rule.parts

/-- A part with its label in front and brackets around it. -/
def labelled (part : Part) : String :=
  part.label.name ++ "[" ++ part.text ++ "]"

/-- The tag that tells how the rule combines; the normal kind has none. -/
def kindTag : CombinationKind → List String
  | .normal => []
  | .additive => ["kind[additive]"]
  | .fallback => ["kind[fallback]"]

/-- The text of the rule with the kind and every part labelled. -/
def labelledText (rule : Rule) : String :=
  String.intercalate " " (kindTag rule.kind ++ rule.parts.map labelled)

/-- Whether the rule has no selector, no modifier and no comment. -/
def isEmpty (rule : Rule) : Bool :=
  !rule.always && rule.years.isEmpty && rule.dates.isEmpty && rule.weeks.isEmpty
    && rule.holidays.isEmpty && rule.days.isEmpty && rule.times.isEmpty
    && rule.modifier.isNone && rule.comment.isNone

theorem isEmpty_iff (rule : Rule) : rule.isEmpty = true ↔ rule = { kind := rule.kind } := by
  cases rule
  simp [isEmpty, and_assoc]

/-- Whether two rules differ at most in their days and times. -/
def mergesWith (rule other : Rule) : Bool :=
  decide (rule.kind = other.kind) && decide (rule.always = other.always)
    && decide (rule.years = other.years) && decide (rule.dates = other.dates)
    && decide (rule.weeks = other.weeks) && decide (rule.holidays = other.holidays)
    && decide (rule.modifier = other.modifier) && decide (rule.comment = other.comment)

instance : OpeningRule Rule where
  isEmpty := isEmpty
  kind := kind
  mergesWith := mergesWith
  text := text
  labelledText := labelledText

end Rule

end OpeningTimes

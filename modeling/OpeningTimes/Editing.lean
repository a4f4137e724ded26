import OpeningTimes.Loading
import OpeningTimes.Rule.Encoding

/-!
Editing a list of rules step by step.  A step whose text cannot be decoded changes nothing.
-/

namespace OpeningTimes

inductive RuleField where
  | kind
  | always
  | years
  | dates
  | weeks
  | holidays
  | days
  | times
  | modifier
  | comment
deriving DecidableEq, Repr

def RuleField.names : List (String × RuleField) :=
  [("kind", .kind), ("twenty_four_seven", .always), ("years", .years), ("dates", .dates),
   ("weeks", .weeks), ("holidays", .holidays), ("days", .days), ("times", .times),
   ("modifier", .modifier), ("comment", .comment)]

def RuleField.ofName? (name : String) : Option RuleField :=
  RuleField.names.lookup name

/-- The rule with one field replaced by the value that a text gives. -/
def Rule.withField (rule : Rule) (field : RuleField) (text : String) : Except Error Rule :=
  match field with
  | .kind => do
      let kind ← decodeText CombinationKind.decoder text
      .ok { rule with kind }
  | .always => do
      let always ← decodeText Json.Decoder.boolean text
      .ok { rule with always }
  | .years => do
      let years ← decodeText (Json.Decoder.list YearRange.decoder) text
      .ok { rule with years }
  | .dates => do
      let dates ← decodeText (Json.Decoder.list DateRange.decoder) text
      .ok { rule with dates }
  | .weeks => do
      let weeks ← decodeText (Json.Decoder.list WeekRange.decoder) text
      .ok { rule with weeks }
  | .holidays => do
      let holidays ← decodeText (Json.Decoder.list Holiday.decoder) text
      .ok { rule with holidays }
  | .days => do
      let days ← decodeText (Json.Decoder.list DayRange.decoder) text
      .ok { rule with days }
  | .times => do
      let times ← decodeText (Json.Decoder.list TimeSpan.decoder) text
      .ok { rule with times }
  | .modifier => do
      let modifier ← decodeText (Json.Decoder.optional Modifier.decoder) text
      .ok { rule with modifier }
  | .comment => do
      let comment ← decodeText (Json.Decoder.optional Json.Decoder.string) text
      .ok { rule with comment }

/-- A step that changes a list of rules.  Positions count from zero. -/
inductive Edit where
  /-- Adds the rules of a JSON list at the end. -/
  | append (text : String)
  /-- Puts the rule of a text before the rule at a position. -/
  | insert (position : Nat) (text : String)
  /-- Takes the rule at a position away. -/
  | remove (position : Nat)
  /-- Adds the rule at a position once more at the end. -/
  | copy (position : Nat)
  /-- Turns the list around. -/
  | reverse
  /-- Replaces a field of the rule at a position by the value of a text. -/
  | set (position : Nat) (field : RuleField) (text : String)
  /-- Writes the list as JSON and loads it again. -/
  | reload
deriving DecidableEq, Repr

def Edit.apply (rules : List Rule) : Edit → Except Error (List Rule)
  | .append text => do
      let more ← rulesOfText text
      .ok (rules ++ more)
  | .insert position text => do
      let rule ← decodeText Rule.decoder text
      .ok (rules.insertIdx position rule)
  | .remove position => .ok (rules.eraseIdx position)
  | .copy position => .ok (rules ++ (rules[position]?).toList)
  | .reverse => .ok rules.reverse
  | .set position field text =>
      match rules[position]? with
      | none => .ok rules
      | some rule => do
          let rule ← rule.withField field text
          .ok (rules.set position rule)
  | .reload => rulesOfText (rulesJson rules).compact

end OpeningTimes

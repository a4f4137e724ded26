import OpeningTimes.Error
import OpeningTimes.Log.Record
import OpeningTimes.Rule.Decoding

/-!
Turning text into values: lists of rules from JSON, months and weekdays from their names.
-/

namespace OpeningTimes

/-- Decodes a text that consists of one value. -/
def decodeText {α : Type} (read : Json.Decoder α) (text : String) : Except Error α :=
  match Json.Decoder.decode read text with
  | .ok value => .ok value
  | .error refusal => .error (.json refusal)

def rulesOfText (text : String) : Except Error (List Rule) :=
  decodeText (Json.Decoder.list Rule.decoder) text

def loadingTarget : String :=
  "opening_hours_core::rule"

/-- The rules of a JSON list, recording their number if there is nothing wrong. -/
def loadRules (text : String) : Logged (Except Error (List Rule)) :=
  match rulesOfText text with
  | .error error => pure (.error error)
  | .ok rules => do
      Logged.note .debug loadingTarget ("loaded " ++ toString rules.length ++ " rules")
      pure (.ok rules)

def monthNamed (name : String) : Except Error Month :=
  match Month.ofName? name with
  | some month => .ok month
  | none => .error (.invalidMonth name)

/-- The weekday with an abbreviation. -/
def weekdayAbbreviated (name : String) : Except Error Weekday :=
  match Weekday.ofAbbreviation? name with
  | some day => .ok day
  | none => .error (.invalidWeekday name)

/-- The months with these names in calendar order.  The first name that is none is reported. -/
def monthsSorted (names : List String) : Except Error (List Month) := do
  let months ← names.mapM monthNamed
  .ok (Month.sorted months)

end OpeningTimes

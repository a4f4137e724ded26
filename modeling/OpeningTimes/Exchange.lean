import OpeningTimes.Grouping
import OpeningTimes.Joining
import OpeningTimes.Loading
import OpeningTimes.Rule.Encoding

/-!
Whole operations from text to text, for callers that hold rules as JSON.
-/

namespace OpeningTimes

def renderingOfText (style : Style) (text : String) : Logged (Except Error String) := do
  match ← loadRules text with
  | .error error => pure (.error error)
  | .ok rules => do
      let rendering ← renderRules style rules
      pure (.ok rendering)

/-- The groups of the rules of a JSON list, as a JSON list of lists without any blanks. -/
def groupsOfText (text : String) : Logged (Except Error String) := do
  match ← loadRules text with
  | .error error => pure (.error error)
  | .ok rules => do
      let groups ← groupRules rules
      pure (.ok (groupsJson (groups.map Group.rules)).compact)

end OpeningTimes

/-!
How a rule combines with the rules before it.
-/

namespace OpeningTimes

/-- How a rule combines with the rule before it: it overrides it, extends it, or applies where
it does not. -/
inductive CombinationKind where
  | normal
  | additive
  | fallback
deriving DecidableEq, Repr

/-- The text that stands between a rule of this kind and the rule before it. -/
def CombinationKind.separator : CombinationKind → String
  | .normal => "; "
  | .additive => ", "
  | .fallback => " || "

def CombinationKind.name : CombinationKind → String
  | .normal => "normal"
  | .additive => "additive"
  | .fallback => "fallback"

end OpeningTimes

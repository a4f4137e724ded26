/-!
Sets of characters given by spans of code points, the form in which character properties are
tabulated.
-/

namespace OpeningTimes.Text

/-- The code points from `first` to `last`, both ends included. -/
structure CodeSpan where
  first : Nat
  last : Nat
deriving Repr, DecidableEq

def CodeSpan.contains (span : CodeSpan) (code : Nat) : Bool :=
  decide (span.first ≤ code) && decide (code ≤ span.last)

def inSpans (spans : List CodeSpan) (c : Char) : Bool :=
  spans.any (fun span => span.contains c.toNat)

end OpeningTimes.Text

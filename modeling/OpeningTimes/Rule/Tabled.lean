import OpeningTimes.Rule.Contract

/-!
Rules given by tables: every answer that grouping and joining ask for is written down, so that
any relation between rules can be tried.
-/

namespace OpeningTimes

/-- A rule made of its answers.  It may join the group of another rule when the row `accepts`
holds at the number of that rule; past the end of the row it does not. -/
structure TabledRule where
  number : Nat
  text : String
  labelledText : String
  kind : CombinationKind
  empty : Bool
  accepts : List Bool
deriving DecidableEq, Repr

instance : OpeningRule TabledRule where
  isEmpty := TabledRule.empty
  kind := TabledRule.kind
  mergesWith rule other := rule.accepts.getD other.number false
  text := TabledRule.text
  labelledText := TabledRule.labelledText

end OpeningTimes

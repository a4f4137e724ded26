import OpeningTimes.Rule.Kind

/-!
What grouping and joining ask of a rule.  Nothing is assumed of the answers: in particular the
relation that lets rules share a group may be asymmetric, irreflexive and intransitive.
-/

namespace OpeningTimes

/-- A type whose values can be grouped and joined. -/
class OpeningRule (ρ : Type) where
  /-- Whether the rule says nothing and is left out when rules are joined. -/
  isEmpty : ρ → Bool
  /-- How the rule combines with the rule before it. -/
  kind : ρ → CombinationKind
  /-- Whether the first rule may join a group founded by the second. -/
  mergesWith : ρ → ρ → Bool
  /-- The text of the rule in the grammar. -/
  text : ρ → String
  /-- The text of the rule with its parts labelled. -/
  labelledText : ρ → String

namespace OpeningRule

variable {ρ : Type} [OpeningRule ρ]

/-- Whether the rule extends the rule before it. -/
def isAdditive (rule : ρ) : Bool :=
  decide (kind rule = .additive)

/-- Whether the rule applies where the rule before it does not. -/
def isFallback (rule : ρ) : Bool :=
  decide (kind rule = .fallback)

end OpeningRule

end OpeningTimes

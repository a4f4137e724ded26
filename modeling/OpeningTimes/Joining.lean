import OpeningTimes.Rule.Contract
import OpeningTimes.Log.Record

/-!
Joining the texts of rules.  Empty rules are passed over; every other rule but the first brings
the separator of its own kind with it.
-/

namespace OpeningTimes

inductive Style where
  /-- As the grammar writes it. -/
  | canonical
  /-- With its parts labelled. -/
  | labelled
deriving DecidableEq, Repr

/-- What has been joined so far: the text, and the number of rules in it. -/
structure Joined where
  text : String := ""
  count : Nat := 0
deriving DecidableEq, Repr

namespace Joining

variable {ρ : Type} [OpeningRule ρ]

/-- The joined text after one more rule.  Whether a separator is needed depends on the number of
rules before, not on their text, which may be empty. -/
def add (write : ρ → String) (joined : Joined) (rule : ρ) : Joined :=
  if OpeningRule.isEmpty rule then joined
  else
    let separator := if joined.count = 0 then "" else (OpeningRule.kind rule).separator
    ⟨joined.text ++ separator ++ write rule, joined.count + 1⟩

theorem add_of_isEmpty (write : ρ → String) (joined : Joined) {rule : ρ}
    (hempty : OpeningRule.isEmpty rule = true) : add write joined rule = joined := by
  simp [add, hempty]

theorem count_add_of_not_isEmpty (write : ρ → String) (joined : Joined) {rule : ρ}
    (hfilled : OpeningRule.isEmpty rule = false) :
    (add write joined rule).count = joined.count + 1 := by
  simp [add, hfilled]

def target : String :=
  "opening_hours_core::render"

end Joining

/-- Joins the rules that are not empty, writing each with the given function. -/
def joinRules {ρ : Type} [OpeningRule ρ] (write : ρ → String) (rules : List ρ) :
    Logged String := do
  let joined := rules.foldl (Joining.add write) {}
  Logged.note .debug Joining.target
    ("rendered " ++ toString joined.count ++ " non-empty rules")
  pure joined.text

def renderRules {ρ : Type} [OpeningRule ρ] (style : Style) (rules : List ρ) : Logged String :=
  match style with
  | .canonical => joinRules OpeningRule.text rules
  | .labelled => joinRules OpeningRule.labelledText rules

end OpeningTimes

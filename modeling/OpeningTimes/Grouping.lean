import OpeningTimes.Rule.Contract
import OpeningTimes.Log.Record

/-!
Grouping.  Rules are taken in order; each joins the first group whose founder it merges with, or
founds a new group after all others.  Only founders are consulted, so the answer makes no use of
any law of the relation.
-/

namespace OpeningTimes

/-- A rule with its position in the list that is grouped. -/
structure Member (ρ : Type) where
  position : Nat
  rule : ρ
deriving Repr

/-- A group: the rule that founded it and the rules that joined later, in order. -/
structure Group (ρ : Type) where
  founder : Member ρ
  followers : List (Member ρ) := []
deriving Repr

namespace Group

variable {ρ : Type}

/-- The members of the group in the order in which they came. -/
def members (group : Group ρ) : List (Member ρ) :=
  group.founder :: group.followers

def positions (group : Group ρ) : List Nat :=
  group.members.map Member.position

def rules (group : Group ρ) : List ρ :=
  group.members.map Member.rule

/-- The group with one more member at its end. -/
def add (group : Group ρ) (member : Member ρ) : Group ρ :=
  { group with followers := group.followers ++ [member] }

@[simp] theorem founder_add (group : Group ρ) (member : Member ρ) :
    (group.add member).founder = group.founder := rfl

@[simp] theorem members_add (group : Group ρ) (member : Member ρ) :
    (group.add member).members = group.members ++ [member] := rfl

theorem members_ne_nil (group : Group ρ) : group.members ≠ [] :=
  List.cons_ne_nil group.founder group.followers

end Group

/-- What happens to a rule when it is grouped. -/
inductive Decision (ρ : Type) where
  /-- The rule founds the group with this number. -/
  | founds (number : Nat)
  /-- The rule joins the group of this founder. -/
  | joins (founder : Member ρ)
deriving Repr

namespace Grouping

variable {ρ : Type} [OpeningRule ρ]

/-- Whether the rule of the member merges with the founder of the group. -/
def accepts (group : Group ρ) (member : Member ρ) : Bool :=
  OpeningRule.mergesWith member.rule group.founder.rule

/-- The groups after one more member: the first group that accepts it takes it, and else it
founds a group at the end. -/
def insert (member : Member ρ) : List (Group ρ) → List (Group ρ)
  | [] => [⟨member, []⟩]
  | group :: rest =>
      if accepts group member then group.add member :: rest
      else group :: insert member rest

theorem insert_of_accepts {group : Group ρ} {member : Member ρ}
    (haccepts : accepts group member = true) (rest : List (Group ρ)) :
    insert member (group :: rest) = group.add member :: rest := by
  simp [insert, haccepts]

theorem insert_of_rejects {group : Group ρ} {member : Member ρ}
    (hrejects : accepts group member = false) (rest : List (Group ρ)) :
    insert member (group :: rest) = group :: insert member rest := by
  simp [insert, hrejects]

/-- A member that no founder accepts founds a group at the end. -/
theorem insert_of_all_reject {groups : List (Group ρ)} {member : Member ρ}
    (hrejects : ∀ group ∈ groups, accepts group member = false) :
    insert member groups = groups ++ [⟨member, []⟩] := by
  induction groups with
  | nil => rfl
  | cons group rest ih =>
      rw [insert_of_rejects (hrejects group List.mem_cons_self),
        ih (fun other hother => hrejects other (List.mem_cons_of_mem group hother))]
      rfl

def decision (groups : List (Group ρ)) (member : Member ρ) : Decision ρ :=
  match groups.find? (fun group => accepts group member) with
  | some group => .joins group.founder
  | none => .founds groups.length

def target : String :=
  "opening_hours_core::merge"

/-- The message that reports what happened to the rule at a position. -/
def decisionText (position : Nat) : Decision ρ → String
  | .founds number =>
      "rule " ++ toString position ++ " founds group " ++ toString number
  | .joins founder =>
      "rule " ++ toString position ++ " joins group founded by `"
        ++ OpeningRule.text founder.rule ++ "`"

/-- One step: the decision about a member is recorded, then the member is placed. -/
def step (groups : List (Group ρ)) (member : Member ρ) : Logged (List (Group ρ)) := do
  Logged.note .trace target (decisionText member.position (decision groups member))
  pure (insert member groups)

def place : List (Group ρ) → List (Member ρ) → Logged (List (Group ρ))
  | groups, [] => pure groups
  | groups, member :: rest => do
      let groups ← step groups member
      place groups rest

/-- The groups are the same whether the decisions are recorded or not. -/
theorem value_place (groups : List (Group ρ)) (members : List (Member ρ)) :
    (place groups members).value
      = members.foldl (fun groups member => insert member groups) groups := by
  induction members generalizing groups with
  | nil => rfl
  | cons member rest ih => simp [place, step, ih]

/-- The rules with their positions, counted from zero. -/
def membersOf (rules : List ρ) : List (Member ρ) :=
  rules.zipIdx.map (fun (rule, position) => ⟨position, rule⟩)

end Grouping

/-- Groups the rules, recording every decision and in the end the number of groups. -/
def groupRules {ρ : Type} [OpeningRule ρ] (rules : List ρ) : Logged (List (Group ρ)) := do
  let groups ← Grouping.place [] (Grouping.membersOf rules)
  Logged.note .debug Grouping.target
    ("grouped " ++ toString rules.length ++ " rules into " ++ toString groups.length ++ " groups")
  pure groups

end OpeningTimes

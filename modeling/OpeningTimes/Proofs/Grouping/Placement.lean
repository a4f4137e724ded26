import Mathlib.Data.List.Induction
import OpeningTimes.Grouping

/-!
What placing one member does to the groups, and the groups that a run of placements leaves.
-/

namespace OpeningTimes

theorem Group.positions_add {ρ : Type} (group : Group ρ) (member : Member ρ) :
    (group.add member).positions = group.positions ++ [member.position] := by
  simp [Group.positions]

theorem Group.positions_ne_nil {ρ : Type} (group : Group ρ) : group.positions ≠ [] := by
  simp [Group.positions, Group.members_ne_nil]

namespace Grouping

variable {ρ : Type}

theorem membersOf_append_singleton (rules : List ρ) (rule : ρ) :
    membersOf (rules ++ [rule]) = membersOf rules ++ [⟨rules.length, rule⟩] := by
  simp [membersOf, List.zipIdx_append]

theorem mem_membersOf_iff (rules : List ρ) (member : Member ρ) :
    member ∈ membersOf rules ↔ rules[member.position]? = some member.rule := by
  simp only [membersOf, List.mem_map, Prod.exists, List.mk_mem_zipIdx_iff_getElem?]
  constructor
  · rintro ⟨rule, position, hrule, rfl⟩
    exact hrule
  · intro hrule
    exact ⟨member.rule, member.position, hrule, rfl⟩

variable [OpeningRule ρ]

def groupsOf (members : List (Member ρ)) : List (Group ρ) :=
  members.foldl (fun groups member => insert member groups) []

theorem value_groupRules (rules : List ρ) :
    (groupRules rules).value = groupsOf (membersOf rules) := by
  simp only [groupRules, Logged.value_bind, Logged.value_pure, value_place]
  rfl

theorem groupsOf_append_singleton (members : List (Member ρ)) (member : Member ρ) :
    groupsOf (members ++ [member]) = insert member (groupsOf members) := by
  simp [groupsOf]

/-- A member that the groups before reject and the next group accepts joins that group. -/
theorem insert_of_first_accepts {before : List (Group ρ)} {group : Group ρ} {member : Member ρ}
    (hbefore : ∀ other ∈ before, accepts other member = false)
    (haccepts : accepts group member = true) (after : List (Group ρ)) :
    insert member (before ++ group :: after) = before ++ group.add member :: after := by
  induction before with
  | nil => exact insert_of_accepts haccepts after
  | cons head tail ih =>
      rw [List.cons_append, insert_of_rejects (hbefore head List.mem_cons_self),
        ih (fun other hother => hbefore other (List.mem_cons_of_mem head hother))]
      rfl

/-- Everything that placing a member can do: it founds a group at the end when all groups reject
it, and else it joins the first group that accepts it. -/
theorem insert_cases (member : Member ρ) (groups : List (Group ρ)) :
    ((∀ group ∈ groups, accepts group member = false) ∧
      insert member groups = groups ++ [⟨member, []⟩]) ∨
    ∃ before group after, groups = before ++ group :: after ∧
      (∀ other ∈ before, accepts other member = false) ∧ accepts group member = true ∧
      insert member groups = before ++ group.add member :: after := by
  cases hfound : groups.find? (fun group => accepts group member) with
  | none =>
      have hrejects : ∀ group ∈ groups, accepts group member = false := by
        simpa using hfound
      exact Or.inl ⟨hrejects, insert_of_all_reject hrejects⟩
  | some group =>
      obtain ⟨haccepts, before, after, rfl, hbefore⟩ := List.find?_eq_some_iff_append.1 hfound
      have hrejects : ∀ other ∈ before, accepts other member = false := by
        simpa using hbefore
      exact Or.inr ⟨before, group, after, rfl, hrejects, haccepts,
        insert_of_first_accepts hrejects haccepts after⟩

/-- Every member that a group holds was placed. -/
theorem mem_of_mem_groupsOf {members : List (Member ρ)} {group : Group ρ} {member : Member ρ}
    (hgroup : group ∈ groupsOf members) (hmember : member ∈ group.members) :
    member ∈ members := by
  induction members using List.reverseRecOn generalizing group with
  | nil => simp [groupsOf] at hgroup
  | append_singleton members last ih =>
      rw [groupsOf_append_singleton] at hgroup
      rw [List.mem_append, List.mem_singleton]
      rcases insert_cases last (groupsOf members) with
        ⟨-, hinsert⟩ | ⟨before, joined, after, hgroups, -, -, hinsert⟩
      · rw [hinsert, List.mem_append, List.mem_singleton] at hgroup
        rcases hgroup with hold | rfl
        · exact Or.inl (ih hold hmember)
        · exact Or.inr (by simpa [Group.members] using hmember)
      · rw [hinsert, List.mem_append, List.mem_cons] at hgroup
        rcases hgroup with hold | rfl | hold
        · exact Or.inl (ih (by rw [hgroups]; simp [hold]) hmember)
        · rw [Group.members_add, List.mem_append, List.mem_singleton] at hmember
          rcases hmember with hold | hlast
          · exact Or.inl (ih (by rw [hgroups]; simp) hold)
          · exact Or.inr hlast
        · exact Or.inl (ih (by rw [hgroups]; simp [hold]) hmember)

/-- A member carries the rule at its position. -/
theorem rule_of_mem_groupsOf {rules : List ρ} {group : Group ρ} {member : Member ρ}
    (hgroup : group ∈ groupsOf (membersOf rules)) (hmember : member ∈ group.members) :
    rules[member.position]? = some member.rule :=
  (mem_membersOf_iff rules member).1 (mem_of_mem_groupsOf hgroup hmember)

end Grouping

end OpeningTimes

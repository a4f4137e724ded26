import Mathlib.Data.List.Pairwise
import OpeningTimes.Proofs.Grouping.Placement

/-!
The conditions that determine a grouping.  They speak of groups as lists of positions only, and
exactly one list of groups meets them.
-/

namespace OpeningTimes.Grouping

variable {ρ : Type}

theorem lt_length_of_covers {rules : List ρ} {groups : List (List Nat)}
    (hcovers : groups.flatten.Perm (List.range rules.length)) :
    ∀ group ∈ groups, ∀ position ∈ group, position < rules.length := by
  intro group hgroup position hposition
  have hmem : position ∈ groups.flatten := List.mem_flatten.2 ⟨group, hgroup, hposition⟩
  exact List.mem_range.1 (hcovers.mem_iff.1 hmem)

variable [OpeningRule ρ]

/-- The groups of rules as lists of positions. -/
def groupPositions (rules : List ρ) : List (List Nat) :=
  (groupRules rules).value.map Group.positions

/-- Whether the rule at a position may join a group founded at another one, if there are rules
at both. -/
def mergesAt (rules : List ρ) (position founder : Nat) : Option Bool := do
  let rule ← rules[position]?
  let founding ← rules[founder]?
  some (OpeningRule.mergesWith rule founding)

/-- The first position of a group accepts all that follow it. -/
def Joined (rules : List ρ) (group : List Nat) : Prop :=
  ∀ founder ∈ group.head?, ∀ position ∈ group.tail,
    mergesAt rules position founder = some true

/-- The first position of the earlier group rejects all positions of the later one. -/
def PassedOver (rules : List ρ) (earlier later : List Nat) : Prop :=
  ∀ founder ∈ earlier.head?, ∀ position ∈ later,
    mergesAt rules position founder = some false

/-- What holds of the positions in a grouping.  The first position of a group is its founder. -/
@[mk_iff]
structure IsGrouping (rules : List ρ) (groups : List (List Nat)) : Prop where
  /-- Every position stands in exactly one group, and there only once. -/
  covers : groups.flatten.Perm (List.range rules.length)
  nonempty : ∀ group ∈ groups, group ≠ []
  increasing : ∀ group ∈ groups, group.Pairwise (· < ·)
  foundersIncreasing : (groups.filterMap List.head?).Pairwise (· < ·)
  /-- A founder accepts the other members of its group. -/
  joined : ∀ group ∈ groups, Joined rules group
  /-- A founder rejects the founders and the other members of all later groups. -/
  passedOver : groups.Pairwise (PassedOver rules)

section Last

/-!
One more rule.  Positions below `rules.length` are related as before, so the conditions on the
longer list come down to those on the shorter one and to what the founders say of the last rule.
-/

variable {rules : List ρ} (rule : ρ)

theorem mergesAt_append_of_lt {position founder : Nat}
    (hposition : position < rules.length) (hfounder : founder < rules.length) :
    mergesAt (rules ++ [rule]) position founder = mergesAt rules position founder := by
  simp [mergesAt, List.getElem?_append_left, hposition, hfounder]

theorem joined_append_iff {group : List Nat}
    (hlt : ∀ position ∈ group, position < rules.length) :
    Joined (rules ++ [rule]) group ↔ Joined rules group := by
  refine forall₂_congr fun founder hfounder => forall₂_congr fun position hposition => ?_
  rw [mergesAt_append_of_lt rule (hlt position (List.mem_of_mem_tail hposition))
    (hlt founder (List.mem_of_mem_head? hfounder))]

theorem joined_append_last_iff {group : List Nat} (hne : group ≠ [])
    (hlt : ∀ position ∈ group, position < rules.length) :
    Joined (rules ++ [rule]) (group ++ [rules.length]) ↔ Joined rules group ∧
      ∀ founder ∈ group.head?, mergesAt (rules ++ [rule]) rules.length founder = some true := by
  rw [← joined_append_iff rule hlt]
  obtain ⟨founder, followers, rfl⟩ := List.exists_cons_of_ne_nil hne
  simp [Joined, or_imp, forall_and]

theorem passedOver_append_iff {earlier later : List Nat}
    (hearlier : ∀ position ∈ earlier, position < rules.length)
    (hlater : ∀ position ∈ later, position < rules.length) :
    PassedOver (rules ++ [rule]) earlier later ↔ PassedOver rules earlier later := by
  refine forall₂_congr fun founder hfounder => forall₂_congr fun position hposition => ?_
  rw [mergesAt_append_of_lt rule (hlater position hposition)
    (hearlier founder (List.mem_of_mem_head? hfounder))]

theorem passedOver_append_last_iff {earlier later : List Nat}
    (hearlier : ∀ position ∈ earlier, position < rules.length)
    (hlater : ∀ position ∈ later, position < rules.length) :
    PassedOver (rules ++ [rule]) earlier (later ++ [rules.length]) ↔
      PassedOver rules earlier later ∧ PassedOver (rules ++ [rule]) earlier [rules.length] := by
  rw [← passedOver_append_iff rule hearlier hlater]
  simp [PassedOver, or_imp, forall_and]

theorem pairwise_passedOver_append_iff {groups : List (List Nat)}
    (hlt : ∀ group ∈ groups, ∀ position ∈ group, position < rules.length) :
    groups.Pairwise (PassedOver (rules ++ [rule])) ↔ groups.Pairwise (PassedOver rules) :=
  List.Pairwise.iff_of_mem fun hearlier hlater =>
    passedOver_append_iff rule (hlt _ hearlier) (hlt _ hlater)

theorem forall_joined_append_iff {groups : List (List Nat)}
    (hlt : ∀ group ∈ groups, ∀ position ∈ group, position < rules.length) :
    (∀ group ∈ groups, Joined (rules ++ [rule]) group) ↔ ∀ group ∈ groups, Joined rules group :=
  forall₂_congr fun group hgroup => joined_append_iff rule (hlt group hgroup)

end Last

namespace IsGrouping

variable {rules : List ρ} {rule : ρ}

/-- The last rule stands alone in the last group exactly when all other groups pass it over. -/
theorem append_founder_iff {groups : List (List Nat)} :
    IsGrouping (rules ++ [rule]) (groups ++ [[rules.length]]) ↔
      IsGrouping rules groups ∧
        ∀ group ∈ groups, PassedOver (rules ++ [rule]) group [rules.length] := by
  have hcovers : (groups ++ [[rules.length]]).flatten.Perm (List.range (rules ++ [rule]).length) ↔
      groups.flatten.Perm (List.range rules.length) := by
    simp [List.range_succ, List.perm_append_right_iff]
  rw [isGrouping_iff, isGrouping_iff, hcovers]
  -- Both sides bound the positions, which makes the other conditions comparable.
  rw [and_assoc, and_congr_right_iff]
  intro hperm
  have hlt := lt_length_of_covers hperm
  have hfounders : ((groups ++ [[rules.length]]).filterMap List.head?).Pairwise (· < ·) ↔
      (groups.filterMap List.head?).Pairwise (· < ·) := by
    have hlast : ∀ founder ∈ groups.filterMap List.head?, founder < rules.length := by
      intro founder hfounder
      obtain ⟨group, hgroup, hhead⟩ := List.mem_filterMap.1 hfounder
      exact hlt group hgroup founder (List.mem_of_mem_head? hhead)
    simpa [List.pairwise_append] using fun _ => hlast
  have hjoined : (∀ group ∈ groups ++ [[rules.length]], Joined (rules ++ [rule]) group) ↔
      ∀ group ∈ groups, Joined rules group := by
    rw [← forall_joined_append_iff rule hlt]
    simp [or_imp, forall_and, Joined]
  have hpassed : (groups ++ [[rules.length]]).Pairwise (PassedOver (rules ++ [rule])) ↔
      groups.Pairwise (PassedOver rules) ∧
        ∀ group ∈ groups, PassedOver (rules ++ [rule]) group [rules.length] := by
    rw [← pairwise_passedOver_append_iff rule hlt]
    simp [List.pairwise_append]
  rw [hfounders, hjoined, hpassed]
  simp [or_imp, forall_and, and_assoc]

/-- The last rule stands at the end of a group exactly when all groups before pass it over and
the founder of this one accepts it. -/
theorem append_follower_iff {before after : List (List Nat)} {group : List Nat}
    (hne : group ≠ []) :
    IsGrouping (rules ++ [rule]) (before ++ (group ++ [rules.length]) :: after) ↔
      IsGrouping rules (before ++ group :: after) ∧
        (∀ other ∈ before, PassedOver (rules ++ [rule]) other [rules.length]) ∧
        ∀ founder ∈ group.head?,
          mergesAt (rules ++ [rule]) rules.length founder = some true := by
  have hcovers : (before ++ (group ++ [rules.length]) :: after).flatten.Perm
        (List.range (rules ++ [rule]).length) ↔
      (before ++ group :: after).flatten.Perm (List.range rules.length) := by
    have hmove : (before ++ (group ++ [rules.length]) :: after).flatten.Perm
        ((before ++ group :: after).flatten ++ [rules.length]) := by
      simp only [List.flatten_append, List.flatten_cons, List.append_assoc,
        List.perm_append_left_iff]
      exact List.perm_append_comm
    rw [List.Perm.congr_left hmove]
    simp only [List.length_append, List.length_singleton, List.range_succ,
      List.perm_append_right_iff]
  rw [isGrouping_iff, isGrouping_iff, hcovers]
  rw [and_assoc, and_congr_right_iff]
  intro hperm
  have hlt := lt_length_of_covers hperm
  have hbefore : ∀ other ∈ before, ∀ position ∈ other, position < rules.length :=
    fun other hother => hlt other (by simp [hother])
  have hgroup : ∀ position ∈ group, position < rules.length := hlt group (by simp)
  have hafter : ∀ other ∈ after, ∀ position ∈ other, position < rules.length :=
    fun other hother => hlt other (by simp [hother])
  have hhead : (group ++ [rules.length]).head? = group.head? := by
    obtain ⟨founder, followers, rfl⟩ := List.exists_cons_of_ne_nil hne
    rfl
  have hfounders : (before ++ (group ++ [rules.length]) :: after).filterMap List.head? =
      (before ++ group :: after).filterMap List.head? := by
    simp only [List.filterMap_append, List.filterMap_cons, hhead]
  have hnonempty : (∀ other ∈ before ++ (group ++ [rules.length]) :: after, other ≠ []) ↔
      ∀ other ∈ before ++ group :: after, other ≠ [] := by
    simp [or_imp, forall_and, hne]
  have hincreasing : (group ++ [rules.length]).Pairwise (· < ·) ↔ group.Pairwise (· < ·) := by
    simpa [List.pairwise_append] using fun _ => hgroup
  have hpassedGroup : (∀ later ∈ after,
        PassedOver (rules ++ [rule]) (group ++ [rules.length]) later) ↔
      ∀ later ∈ after, PassedOver rules group later := by
    refine forall₂_congr fun later hlater => ?_
    rw [PassedOver, hhead]
    exact passedOver_append_iff rule hgroup (hafter later hlater)
  have hpassedBefore : (∀ earlier ∈ before,
        PassedOver (rules ++ [rule]) earlier (group ++ [rules.length])) ↔
      (∀ earlier ∈ before, PassedOver rules earlier group) ∧
        ∀ earlier ∈ before, PassedOver (rules ++ [rule]) earlier [rules.length] := by
    rw [← forall₂_and]
    exact forall₂_congr fun earlier hearlier =>
      passedOver_append_last_iff rule (hbefore earlier hearlier) hgroup
  have hpassedAcross : (∀ earlier ∈ before, ∀ later ∈ after,
        PassedOver (rules ++ [rule]) earlier later) ↔
      ∀ earlier ∈ before, ∀ later ∈ after, PassedOver rules earlier later :=
    forall₂_congr fun earlier hearlier => forall₂_congr fun later hlater =>
      passedOver_append_iff rule (hbefore earlier hearlier) (hafter later hlater)
  rw [hfounders, hnonempty]
  simp only [List.mem_append, List.mem_cons, or_imp, forall_and, forall_eq, List.pairwise_append,
    List.pairwise_cons, hincreasing, joined_append_last_iff rule hne hgroup,
    forall_joined_append_iff rule hbefore, forall_joined_append_iff rule hafter,
    pairwise_passedOver_append_iff rule hbefore, pairwise_passedOver_append_iff rule hafter,
    hpassedGroup, hpassedBefore, hpassedAcross]
  constructor
  · rintro ⟨hne', hinc, hheads, ⟨hjb, ⟨hjg, haccepts⟩, hja⟩, hpb, hpg, ⟨hpx, hrejects⟩, hpa⟩
    exact ⟨⟨hne', hinc, hheads, ⟨hjb, hjg, hja⟩, hpb, hpg, hpx, hpa⟩, hrejects, haccepts⟩
  · rintro ⟨⟨hne', hinc, hheads, ⟨hjb, hjg, hja⟩, hpb, hpg, hpx, hpa⟩, hrejects, haccepts⟩
    exact ⟨hne', hinc, hheads, ⟨hjb, ⟨hjg, haccepts⟩, hja⟩, hpb, hpg, ⟨hpx, hrejects⟩, hpa⟩

end IsGrouping

/-- What a group answers to a member shows in the positions of its founder and the member. -/
theorem mergesAt_eq_some_accepts {rules : List ρ} {group : Group ρ} (member : Member ρ)
    (hfounder : rules[group.founder.position]? = some group.founder.rule)
    (hmember : rules[member.position]? = some member.rule) :
    mergesAt rules member.position group.founder.position = some (accepts group member) := by
  simp [mergesAt, hfounder, hmember, accepts]

theorem mergesAt_append_founder {rules : List ρ} {rule : ρ} {group : Group ρ}
    (hgroup : group ∈ groupsOf (membersOf rules)) :
    mergesAt (rules ++ [rule]) rules.length group.founder.position =
      some (accepts group ⟨rules.length, rule⟩) := by
  have hfounder := rule_of_mem_groupsOf hgroup
    (show group.founder ∈ group.members from List.mem_cons_self)
  obtain ⟨hlt, -⟩ := List.getElem?_eq_some_iff.1 hfounder
  refine mergesAt_eq_some_accepts ⟨rules.length, rule⟩ ?_ (by simp)
  rw [List.getElem?_append_left hlt, hfounder]

theorem passedOver_positions_iff {rules : List ρ} {rule : ρ} {group : Group ρ}
    (hgroup : group ∈ groupsOf (membersOf rules)) :
    PassedOver (rules ++ [rule]) group.positions [rules.length] ↔
      accepts group ⟨rules.length, rule⟩ = false := by
  simp [PassedOver, Group.positions, Group.members, mergesAt_append_founder hgroup]

theorem groupPositions_eq (rules : List ρ) :
    groupPositions rules = (groupsOf (membersOf rules)).map Group.positions := by
  rw [groupPositions, value_groupRules]

theorem groupPositions_append_singleton (rules : List ρ) (rule : ρ) :
    groupPositions (rules ++ [rule]) =
      (insert ⟨rules.length, rule⟩ (groupsOf (membersOf rules))).map Group.positions := by
  rw [groupPositions_eq, membersOf_append_singleton, groupsOf_append_singleton]

/-- The program's grouping meets the conditions: every placement keeps them. -/
theorem isGrouping_groupPositions (rules : List ρ) :
    IsGrouping rules (groupPositions rules) := by
  induction rules using List.reverseRecOn with
  | nil => constructor <;> simp [groupPositions, groupRules, Grouping.place, membersOf]
  | append_singleton rules rule ih =>
      rw [groupPositions_append_singleton]
      rw [groupPositions_eq] at ih
      rcases insert_cases ⟨rules.length, rule⟩ (groupsOf (membersOf rules)) with
        ⟨hrejects, hinsert⟩ | ⟨before, group, after, hgroups, hbefore, haccepts, hinsert⟩
      · rw [hinsert, List.map_append]
        refine IsGrouping.append_founder_iff.2 ⟨ih, ?_⟩
        intro positions hpositions
        obtain ⟨group, hgroup, rfl⟩ := List.mem_map.1 hpositions
        exact (passedOver_positions_iff hgroup).2 (hrejects group hgroup)
      · rw [hinsert, List.map_append, List.map_cons, Group.positions_add]
        refine (IsGrouping.append_follower_iff group.positions_ne_nil).2 ⟨?_, ?_, ?_⟩
        · simpa [hgroups] using ih
        · intro positions hpositions
          obtain ⟨other, hother, rfl⟩ := List.mem_map.1 hpositions
          exact (passedOver_positions_iff (by simp [hgroups, hother])).2 (hbefore other hother)
        · intro founder hfounder
          obtain rfl : group.founder.position = founder := by
            simpa [Group.positions, Group.members] using hfounder
          rw [mergesAt_append_founder (by simp [hgroups]), haccepts]

theorem exists_eq_append_last {group : List Nat} {last : Nat} (hmem : last ∈ group)
    (hincreasing : group.Pairwise (· < ·)) (hle : ∀ position ∈ group, position ≤ last) :
    ∃ front, group = front ++ [last] := by
  obtain ⟨front, back, rfl⟩ := List.append_of_mem hmem
  cases back with
  | nil => exact ⟨front, rfl⟩
  | cons next back =>
      have hnext : last < next := by
        have := (List.pairwise_append.1 hincreasing).2.1
        exact List.rel_of_pairwise_cons this List.mem_cons_self
      exact absurd (hle next (by simp)) (Nat.not_le_of_lt hnext)

/-- The shapes of a grouping of one more rule: the rule is a group at the end, or the last
member of a group that had members before. -/
theorem IsGrouping.last_cases {rules : List ρ} {rule : ρ} {groups : List (List Nat)}
    (hgroups : IsGrouping (rules ++ [rule]) groups) :
    (∃ before, groups = before ++ [[rules.length]]) ∨
      ∃ before group after, group ≠ [] ∧
        groups = before ++ (group ++ [rules.length]) :: after := by
  have hle : ∀ group ∈ groups, ∀ position ∈ group, position ≤ rules.length := by
    intro group hgroup position hposition
    have := lt_length_of_covers hgroups.covers group hgroup position hposition
    rw [List.length_append, List.length_singleton] at this
    exact Nat.le_of_lt_succ this
  have hlast : rules.length ∈ groups.flatten := hgroups.covers.mem_iff.2 (by simp)
  obtain ⟨group, hgroup, hmem⟩ := List.mem_flatten.1 hlast
  obtain ⟨front, rfl⟩ := exists_eq_append_last hmem (hgroups.increasing group hgroup)
    (hle group hgroup)
  obtain ⟨before, after, rfl⟩ := List.append_of_mem hgroup
  by_cases hfront : front = []
  · subst hfront
    cases after with
    | nil => exact Or.inl ⟨before, rfl⟩
    | cons next after =>
        -- The founder of a group after the last position would have to lie beyond it.
        obtain ⟨founder, followers, rfl⟩ :=
          List.exists_cons_of_ne_nil (hgroups.nonempty next (by simp))
        have hfounders := hgroups.foundersIncreasing
        rw [List.filterMap_append, List.pairwise_append] at hfounders
        have hlt : rules.length < founder :=
          List.rel_of_pairwise_cons hfounders.2.1 List.mem_cons_self
        exact absurd (hle (founder :: followers) (by simp) founder List.mem_cons_self)
          (Nat.not_le_of_lt hlt)
  · exact Or.inr ⟨before, front, after, hfront, rfl⟩

/-- Only the program's grouping meets the conditions. -/
theorem IsGrouping.eq_groupPositions {rules : List ρ} {groups : List (List Nat)}
    (hgroups : IsGrouping rules groups) : groups = groupPositions rules := by
  induction rules using List.reverseRecOn generalizing groups with
  | nil =>
      have hflat : groups.flatten = [] := by simpa using hgroups.covers
      have hempty : groups = [] := by
        apply List.eq_nil_iff_forall_not_mem.2
        intro group hgroup
        exact hgroups.nonempty group hgroup (List.flatten_eq_nil_iff.1 hflat group hgroup)
      rw [hempty]
      rfl
  | append_singleton rules rule ih =>
      rw [groupPositions_append_singleton]
      rcases hgroups.last_cases with ⟨before, rfl⟩ | ⟨before, group, after, hne, rfl⟩
      · obtain ⟨hbefore, hpassed⟩ := IsGrouping.append_founder_iff.1 hgroups
        obtain rfl := (ih hbefore).trans (groupPositions_eq rules)
        have hrejects : ∀ group ∈ groupsOf (membersOf rules),
            accepts group ⟨rules.length, rule⟩ = false := by
          intro group hgroup
          exact (passedOver_positions_iff hgroup).1 (hpassed _ (List.mem_map_of_mem hgroup))
        rw [insert_of_all_reject hrejects, List.map_append]
        rfl
      · obtain ⟨hshorter, hpassed, hfounder⟩ := (IsGrouping.append_follower_iff hne).1 hgroups
        have hsplit := (ih hshorter).trans (groupPositions_eq rules)
        obtain ⟨first, rest, hfirst, rfl, hrest⟩ := List.map_eq_append_iff.1 hsplit.symm
        obtain ⟨founded, last, rfl, rfl, rfl⟩ := List.map_eq_cons_iff.1 hrest
        have hrejects : ∀ other ∈ first, accepts other ⟨rules.length, rule⟩ = false := by
          intro other hother
          exact (passedOver_positions_iff (by simp [hfirst, hother])).1
            (hpassed _ (List.mem_map_of_mem hother))
        have haccepts : accepts founded ⟨rules.length, rule⟩ = true := by
          have hmerges := hfounder founded.founder.position rfl
          rw [mergesAt_append_founder (by simp [hfirst])] at hmerges
          exact Option.some.inj hmerges
        rw [hfirst, insert_of_first_accepts hrejects haccepts, List.map_append, List.map_cons,
          Group.positions_add]

/-- The groups hold the rules at their positions, and the conditions on the positions have the
program's grouping as their only solution, whatever the relation between the rules is. -/
theorem groupRules_determined (rules : List ρ) :
    (∀ group ∈ (groupRules rules).value, ∀ member ∈ group.members,
        rules[member.position]? = some member.rule) ∧
      ∀ groups : List (List Nat), IsGrouping rules groups ↔ groups = groupPositions rules := by
  constructor
  · intro group hgroup member hmember
    rw [value_groupRules] at hgroup
    exact rule_of_mem_groupsOf hgroup hmember
  · intro groups
    constructor
    · exact IsGrouping.eq_groupPositions
    · rintro rfl
      exact isGrouping_groupPositions rules

end OpeningTimes.Grouping

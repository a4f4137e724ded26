import OpeningTimes.Proofs.Grouping.Selection

/-!
Grouping what has been grouped.  The groups that grouping leaves are settled: no founder accepts a
member of a later group.  Rules that are taken group by group from settled groups fall into the
same groups again, although their order has changed.
-/

namespace OpeningTimes

theorem Group.rules_moved {ρ : Type} (rename : Nat → Nat) (group : Group ρ) :
    (group.moved rename).rules = group.rules := by
  simp [rules, members, moved, Member.moved]

namespace Grouping

variable {ρ : Type}

theorem map_rule_membersOf (rules : List ρ) : (membersOf rules).map Member.rule = rules := by
  simp [membersOf, Function.comp_def]

variable [OpeningRule ρ]

/-- Groups with founders that accept the other members of their own group and reject all members
of later ones. -/
structure Settled (groups : List (Group ρ)) : Prop where
  joined : ∀ group ∈ groups, ∀ member ∈ group.followers, accepts group member = true
  passedOver : groups.Pairwise fun earlier later =>
    ∀ member ∈ later.members, accepts earlier member = false

namespace Settled

/-- Placing a member keeps groups settled, as founders stay and only groups that come after all
that reject the member change. -/
theorem insert {groups : List (Group ρ)} (hsettled : Settled groups) (member : Member ρ) :
    Settled (Grouping.insert member groups) := by
  rcases insert_cases member groups with
    ⟨hrejects, hinsert⟩ | ⟨before, group, after, rfl, hrejects, haccepts, hinsert⟩
  · rw [hinsert]
    constructor
    · intro group hgroup
      rcases List.mem_append.1 hgroup with hold | hnew
      · exact hsettled.joined group hold
      · obtain rfl := List.mem_singleton.1 hnew
        simp
    · rw [List.pairwise_append]
      refine ⟨hsettled.passedOver, List.pairwise_singleton _ _, ?_⟩
      intro earlier hearlier later hlater
      obtain rfl := List.mem_singleton.1 hlater
      simpa [Group.members] using hrejects earlier hearlier
  · have hpassed := hsettled.passedOver
    rw [List.pairwise_append, List.pairwise_cons] at hpassed
    obtain ⟨hbefore, ⟨hgroup, hafter⟩, hacross⟩ := hpassed
    rw [hinsert]
    constructor
    · intro other hother
      rw [List.mem_append, List.mem_cons] at hother
      rcases hother with hother | rfl | hother
      · exact hsettled.joined other (by simp [hother])
      · intro follower hfollower
        rcases List.mem_append.1 hfollower with hold | hnew
        · exact hsettled.joined group (by simp) follower hold
        · obtain rfl := List.mem_singleton.1 hnew
          exact haccepts
      · exact hsettled.joined other (by simp [hother])
    · rw [List.pairwise_append, List.pairwise_cons]
      refine ⟨hbefore, ⟨hgroup, hafter⟩, ?_⟩
      intro earlier hearlier later hlater
      rcases List.mem_cons.1 hlater with rfl | hlater
      · intro placed hplaced
        rw [Group.members_add, List.mem_append, List.mem_singleton] at hplaced
        rcases hplaced with hold | rfl
        · exact hacross earlier hearlier group List.mem_cons_self placed hold
        · exact hrejects earlier hearlier
      · exact hacross earlier hearlier later (List.mem_cons_of_mem _ hlater)

/-- Every run of placements leaves settled groups. -/
theorem groupsOf (members : List (Member ρ)) : Settled (groupsOf members) := by
  induction members using List.reverseRecOn with
  | nil => exact ⟨by simp [Grouping.groupsOf], List.Pairwise.nil⟩
  | append_singleton members last ih =>
      rw [groupsOf_append_singleton]
      exact ih.insert last

/-- Followers that their founder accepts, and the founders before it reject, join one by one. -/
theorem foldl_followers {before : List (Group ρ)} {founder : Member ρ}
    (members others : List (Member ρ))
    (hbefore : ∀ group ∈ before, ∀ member ∈ others, accepts group member = false)
    (haccepts : ∀ member ∈ others, accepts ⟨founder, members⟩ member = true) :
    others.foldl (fun groups member => Grouping.insert member groups)
        (before ++ [⟨founder, members⟩]) =
      before ++ [⟨founder, members ++ others⟩] := by
  induction others generalizing members with
  | nil => simp
  | cons member others ih =>
      have hrejects : ∀ group ∈ before, accepts group member = false :=
        fun group hgroup => hbefore group hgroup member List.mem_cons_self
      have hjoins := insert_of_first_accepts hrejects (haccepts member List.mem_cons_self) []
      rw [List.foldl_cons, hjoins]
      have hrest := ih (members ++ [member])
        (fun group hgroup other hother =>
          hbefore group hgroup other (List.mem_cons_of_mem member hother))
        (fun other hother => haccepts other (List.mem_cons_of_mem member hother))
      simpa [Group.add] using hrest

/-- The members of settled groups, taken group by group, are placed in these groups again. -/
theorem groupsOf_flatMap {groups : List (Group ρ)} (hsettled : Settled groups) :
    Grouping.groupsOf (groups.flatMap Group.members) = groups := by
  induction groups using List.reverseRecOn with
  | nil => rfl
  | append_singleton groups last ih =>
      have hpassed := hsettled.passedOver
      rw [List.pairwise_append] at hpassed
      have hfirst : Settled groups :=
        ⟨fun group hgroup => hsettled.joined group (List.mem_append_left _ hgroup), hpassed.1⟩
      have hrejects : ∀ group ∈ groups, ∀ member ∈ last.members, accepts group member = false :=
        fun group hgroup => hpassed.2.2 group hgroup last List.mem_cons_self
      have haccepts := hsettled.joined last (by simp)
      have hfounds := insert_of_all_reject fun group hgroup =>
        hrejects group hgroup last.founder List.mem_cons_self
      have hgroups := ih hfirst
      rw [Grouping.groupsOf] at hgroups
      rw [List.flatMap_append, List.flatMap_singleton, Grouping.groupsOf, List.foldl_append,
        hgroups, Group.members, List.foldl_cons, hfounds]
      exact foldl_followers [] last.followers
        (fun group hgroup member hmember =>
          hrejects group hgroup member (List.mem_cons_of_mem _ hmember))
        haccepts

end Settled

/-- Which rules the groups hold does not depend on where the rules stand. -/
theorem map_rules_groupsOf {members others : List (Member ρ)}
    (hsame : members.map Member.rule = others.map Member.rule) :
    (groupsOf members).map Group.rules = (groupsOf others).map Group.rules := by
  have hforget : ∀ members : List (Member ρ), (groupsOf members).map Group.rules =
      (groupsOf ((members.map Member.rule).map (Member.mk 0))).map Group.rules := by
    intro members
    have hmoved : (members.map Member.rule).map (Member.mk 0) =
        members.map (Member.moved (fun _ => 0)) := by
      rw [List.map_map]
      rfl
    rw [hmoved, groupsOf_moved, List.map_map]
    simp only [Function.comp_def, Group.rules_moved]
  rw [hforget members, hforget others, hsame]

/-- Grouping the rules of all groups, one group after the other, gives the groups again. -/
theorem map_rules_regrouped (rules : List ρ) :
    (groupRules ((groupRules rules).value.map Group.rules).flatten).value.map Group.rules =
      (groupRules rules).value.map Group.rules := by
  rw [value_groupRules, value_groupRules]
  have hagain := (Settled.groupsOf (membersOf rules)).groupsOf_flatMap
  have hrules : (membersOf ((groupsOf (membersOf rules)).map Group.rules).flatten).map Member.rule =
      ((groupsOf (membersOf rules)).flatMap Group.members).map Member.rule := by
    rw [map_rule_membersOf, List.map_flatMap, List.flatMap_def]
    rfl
  rw [map_rules_groupsOf hrules, hagain]

end Grouping

end OpeningTimes

import Mathlib.Data.List.Nodup
import OpeningTimes.Proofs.Grouping.Characterization
import OpeningTimes.Rule.Tabled

/-!
Grouping some of the rules, possibly in another order.  As long as founders keep their order and
come before the members that they accepted, every group loses the members that were left out and
changes in no other way.
-/

namespace OpeningTimes

def Member.moved {ρ : Type} (rename : Nat → Nat) (member : Member ρ) : Member ρ :=
  { member with position := rename member.position }

def Group.moved {ρ : Type} (rename : Nat → Nat) (group : Group ρ) : Group ρ :=
  ⟨group.founder.moved rename, group.followers.map (Member.moved rename)⟩

theorem Group.positions_moved {ρ : Type} (rename : Nat → Nat) (group : Group ρ) :
    (group.moved rename).positions = group.positions.map rename := by
  simp [positions, members, moved, Member.moved]

namespace Grouping

variable {ρ : Type}

/-- The rules at the positions of a selection. -/
def rulesAt (rules : List ρ) (selection : List Nat) : List ρ :=
  selection.filterMap (fun position => rules[position]?)

/-- The members at the positions of a selection. -/
def membersAt (rules : List ρ) (selection : List Nat) : List (Member ρ) :=
  selection.filterMap (fun position => rules[position]?.map (Member.mk position))

theorem rulesAt_append_singleton {rules : List ρ} {last : Nat} (selection : List Nat)
    (hlt : last < rules.length) :
    rulesAt rules (selection ++ [last]) = rulesAt rules selection ++ [rules[last]] := by
  simp [rulesAt, hlt]

theorem membersAt_append_singleton {rules : List ρ} {last : Nat} (selection : List Nat)
    (hlt : last < rules.length) :
    membersAt rules (selection ++ [last]) =
      membersAt rules selection ++ [⟨last, rules[last]⟩] := by
  simp [membersAt, hlt]

theorem length_rulesAt {rules : List ρ} {selection : List Nat}
    (hrange : ∀ position ∈ selection, position < rules.length) :
    (rulesAt rules selection).length = selection.length := by
  induction selection using List.reverseRecOn with
  | nil => rfl
  | append_singleton selection last ih =>
      rw [rulesAt_append_singleton selection (hrange last (by simp)), List.length_append,
        ih (fun position hposition => hrange position (List.mem_append_left _ hposition)),
        List.length_append]
      rfl

/-- Renaming the positions of the selected rules gives them back the positions that they had. -/
theorem map_moved_membersOf_rulesAt {rules : List ρ} {selection : List Nat}
    (hrange : ∀ position ∈ selection, position < rules.length) :
    (membersOf (rulesAt rules selection)).map (Member.moved (fun place => selection.getD place 0)) =
      membersAt rules selection := by
  induction selection using List.reverseRecOn with
  | nil => rfl
  | append_singleton selection last ih =>
      have hlast := hrange last (by simp)
      have hinit : ∀ position ∈ selection, position < rules.length :=
        fun position hposition => hrange position (List.mem_append_left _ hposition)
      rw [rulesAt_append_singleton selection hlast, membersOf_append_singleton,
        membersAt_append_singleton selection hlast, List.map_append, List.map_singleton,
        length_rulesAt hinit, ← ih hinit]
      congr 1
      · refine List.map_congr_left fun member hmember => ?_
        have hplace := (mem_membersOf_iff _ member).1 hmember
        obtain ⟨hlt, -⟩ := List.getElem?_eq_some_iff.1 hplace
        rw [length_rulesAt hinit] at hlt
        simp [Member.moved, List.getElem?_append_left hlt]
      · simp [Member.moved]

variable [OpeningRule ρ]

/-- Placing a member looks at rules only, so positions may be renamed before or after. -/
theorem insert_moved (rename : Nat → Nat) (member : Member ρ) (groups : List (Group ρ)) :
    insert (member.moved rename) (groups.map (Group.moved rename)) =
      (insert member groups).map (Group.moved rename) := by
  induction groups with
  | nil => rfl
  | cons group rest ih =>
      have hsame : accepts (group.moved rename) (member.moved rename) = accepts group member := rfl
      rw [List.map_cons]
      cases haccepts : accepts group member with
      | true =>
          rw [insert_of_accepts (hsame.trans haccepts), insert_of_accepts haccepts]
          simp [Group.moved, Group.add]
      | false =>
          rw [insert_of_rejects (hsame.trans haccepts), insert_of_rejects haccepts, ih]
          rfl

theorem groupsOf_moved (rename : Nat → Nat) (members : List (Member ρ)) :
    groupsOf (members.map (Member.moved rename)) =
      (groupsOf members).map (Group.moved rename) := by
  induction members using List.reverseRecOn with
  | nil => rfl
  | append_singleton members last ih =>
      rw [List.map_append, List.map_singleton, groupsOf_append_singleton, ih, insert_moved,
        groupsOf_append_singleton]

/-- The founder of the group of a position. -/
def founderOf? (rules : List ρ) (position : Nat) : Option Nat :=
  ((groupPositions rules).find? (fun group => decide (position ∈ group))).bind List.head?

theorem founderOf?_eq_some_iff {rules : List ρ} {position founder : Nat} :
    founderOf? rules position = some founder ↔
      ∃ followers, founder :: followers ∈ groupPositions rules ∧
        position ∈ founder :: followers := by
  have hgroups := isGrouping_groupPositions rules
  have hdisjoint : (groupPositions rules).Pairwise List.Disjoint := by
    have hnodup : (groupPositions rules).flatten.Nodup :=
      hgroups.covers.nodup_iff.2 List.nodup_range
    exact (List.nodup_flatten.1 hnodup).2
  constructor
  · intro hfounder
    obtain ⟨group, hfound, hhead⟩ := Option.bind_eq_some_iff.1 hfounder
    obtain ⟨followers, rfl⟩ := List.head?_eq_some_iff.1 hhead
    exact ⟨followers, List.mem_of_find?_eq_some hfound, by simpa using List.find?_some hfound⟩
  · rintro ⟨followers, hgroup, hposition⟩
    obtain ⟨before, after, hsplit⟩ := List.append_of_mem hgroup
    rw [hsplit, List.pairwise_append] at hdisjoint
    have hbefore : ∀ other ∈ before, ¬ position ∈ other := by
      intro other hother hmem
      exact hdisjoint.2.2 other hother (founder :: followers) List.mem_cons_self hmem hposition
    rw [founderOf?, hsplit, List.find?_append, List.find?_eq_none.2 (by simpa using hbefore),
      List.find?_cons_of_pos (by simpa using hposition)]
    rfl

theorem exists_founderOf? {rules : List ρ} {position : Nat} (hposition : position < rules.length) :
    ∃ founder, founderOf? rules position = some founder := by
  have hgroups := isGrouping_groupPositions rules
  have hmem : position ∈ (groupPositions rules).flatten :=
    hgroups.covers.mem_iff.2 (List.mem_range.2 hposition)
  obtain ⟨group, hgroup, hposition⟩ := List.mem_flatten.1 hmem
  obtain ⟨founder, followers, rfl⟩ := List.exists_cons_of_ne_nil (hgroups.nonempty group hgroup)
  exact ⟨founder, founderOf?_eq_some_iff.2 ⟨followers, hgroup, hposition⟩⟩

/-- The founder of a group is in the group that it founded. -/
theorem founderOf?_founder {rules : List ρ} {position founder : Nat}
    (hfounder : founderOf? rules position = some founder) :
    founderOf? rules founder = some founder := by
  obtain ⟨followers, hgroup, -⟩ := founderOf?_eq_some_iff.1 hfounder
  exact founderOf?_eq_some_iff.2 ⟨followers, hgroup, List.mem_cons_self⟩

theorem mergesAt_founder {rules : List ρ} {position founder : Nat}
    (hfounder : founderOf? rules position = some founder) (hne : position ≠ founder) :
    mergesAt rules position founder = some true := by
  obtain ⟨followers, hgroup, hposition⟩ := founderOf?_eq_some_iff.1 hfounder
  have hfollower : position ∈ followers := (List.mem_cons.1 hposition).resolve_left hne
  exact (isGrouping_groupPositions rules).joined _ hgroup founder rfl position hfollower

/-- A founder rejects the members of all groups that were founded later. -/
theorem mergesAt_earlier_founder {rules : List ρ} {position founder earlier : Nat}
    (hfounder : founderOf? rules position = some founder)
    (hearlier : founderOf? rules earlier = some earlier) (hlt : earlier < founder) :
    mergesAt rules position earlier = some false := by
  have hgroups := isGrouping_groupPositions rules
  obtain ⟨followers, hgroup, hposition⟩ := founderOf?_eq_some_iff.1 hfounder
  obtain ⟨others, hother, -⟩ := founderOf?_eq_some_iff.1 hearlier
  obtain ⟨before, after, hsplit⟩ := List.append_of_mem hgroup
  have hpassed := hgroups.passedOver
  have hheads := hgroups.foundersIncreasing
  rw [hsplit, List.pairwise_append] at hpassed
  rw [hsplit, List.filterMap_append, List.pairwise_append] at hheads
  rw [hsplit, List.mem_append, List.mem_cons] at hother
  rcases hother with hbefore | hsame | hafter
  · exact hpassed.2.2 _ hbefore _ List.mem_cons_self earlier rfl position hposition
  · obtain ⟨rfl, -⟩ := List.cons.inj hsame
    exact absurd hlt (Nat.lt_irrefl earlier)
  · have hlater : founder < earlier :=
      List.rel_of_pairwise_cons hheads.2.1 (List.mem_filterMap.2 ⟨_, hafter, rfl⟩)
    exact absurd hlt (Nat.not_lt_of_lt hlater)

/-- The positions of a selection that found a group. -/
def foundersIn (rules : List ρ) (selection : List Nat) : List Nat :=
  selection.filter (fun position => decide (founderOf? rules position = some position))

/-- What a selection has of the group with a founder. -/
def keptOf (rules : List ρ) (selection : List Nat) (founder : Nat) : List Nat :=
  selection.filter (fun position => decide (founderOf? rules position = some founder))

/-- A sequence of positions in which founders keep their order and no member comes before the
founder that accepted it. -/
structure RespectsFounders (rules : List ρ) (selection : List Nat) : Prop where
  distinct : selection.Nodup
  inRange : ∀ position ∈ selection, position < rules.length
  foundersIncreasing : (foundersIn rules selection).Pairwise (· < ·)
  founderFirst : ∀ before position after, selection = before ++ position :: after →
    founderOf? rules position ≠ some position →
    ∃ founder ∈ before, founderOf? rules position = some founder

theorem mem_foundersIn_iff {rules : List ρ} {selection : List Nat} {founder : Nat} :
    founder ∈ foundersIn rules selection ↔
      founder ∈ selection ∧ founderOf? rules founder = some founder := by
  simp [foundersIn]

theorem mem_keptOf_iff {rules : List ρ} {selection : List Nat} {founder position : Nat} :
    position ∈ keptOf rules selection founder ↔
      position ∈ selection ∧ founderOf? rules position = some founder := by
  simp [keptOf]

theorem keptOf_append_of_ne {rules : List ρ} {last founder : Nat} (selection : List Nat)
    (hne : founderOf? rules last ≠ some founder) :
    keptOf rules (selection ++ [last]) founder = keptOf rules selection founder := by
  simp [keptOf, hne]

theorem keptOf_append_of_eq {rules : List ρ} {last founder : Nat} (selection : List Nat)
    (hfounder : founderOf? rules last = some founder) :
    keptOf rules (selection ++ [last]) founder = keptOf rules selection founder ++ [last] := by
  simp [keptOf, hfounder]

namespace RespectsFounders

variable {rules : List ρ} {selection : List Nat} {last : Nat}

/-- Leaving the last position out keeps what was asked of the others. -/
theorem init (hrespects : RespectsFounders rules (selection ++ [last])) :
    RespectsFounders rules selection where
  distinct := hrespects.distinct.of_append_left
  inRange := fun position hposition =>
    hrespects.inRange position (List.mem_append_left [last] hposition)
  foundersIncreasing := by
    have hfounders := hrespects.foundersIncreasing
    rw [foundersIn, List.filter_append, List.pairwise_append] at hfounders
    exact hfounders.1
  founderFirst := by
    intro before position after hsplit hfollows
    refine hrespects.founderFirst before position (after ++ [last]) ?_ hfollows
    rw [hsplit, List.append_assoc, List.cons_append]

theorem founder_mem (hrespects : RespectsFounders rules selection) {position founder : Nat}
    (hposition : position ∈ selection) (hfounder : founderOf? rules position = some founder) :
    founder ∈ selection := by
  by_cases hself : founderOf? rules position = some position
  · obtain rfl : position = founder := Option.some.inj (hself.symm.trans hfounder)
    exact hposition
  · obtain ⟨before, after, rfl⟩ := List.append_of_mem hposition
    obtain ⟨other, hother, hfounds⟩ := hrespects.founderFirst before position after rfl hself
    obtain rfl : other = founder := Option.some.inj (hfounds.symm.trans hfounder)
    exact List.mem_append_left _ hother

theorem last_not_mem (hrespects : RespectsFounders rules (selection ++ [last])) :
    last ∉ selection := fun hmem =>
  (List.nodup_append.1 hrespects.distinct).2.2 last hmem last List.mem_cons_self rfl

/-- A founder comes before all members of its group, so nothing of the group is there yet. -/
theorem keptOf_founder_eq_nil (hrespects : RespectsFounders rules (selection ++ [last])) :
    keptOf rules selection last = [] := by
  apply List.eq_nil_iff_forall_not_mem.2
  intro position hposition
  obtain ⟨hmem, hfounder⟩ := mem_keptOf_iff.1 hposition
  exact hrespects.last_not_mem (hrespects.init.founder_mem hmem hfounder)

end RespectsFounders

/-- What the groups of a selection look like: their founders are those of the selection, in
order, and each holds what the selection has of the founder's group. -/
structure Restricted (rules : List ρ) (selection : List Nat) (groups : List (Group ρ)) : Prop where
  founders : groups.map (fun group => group.founder.position) = foundersIn rules selection
  members : ∀ group ∈ groups,
    group.positions = keptOf rules selection group.founder.position
  rules : ∀ group ∈ groups, rules[group.founder.position]? = some group.founder.rule

namespace Restricted

variable {rules : List ρ} {selection : List Nat} {groups : List (Group ρ)}

theorem founder_mem (hrestricted : Restricted rules selection groups) {group : Group ρ}
    (hgroup : group ∈ groups) : group.founder.position ∈ foundersIn rules selection := by
  rw [← hrestricted.founders]
  exact List.mem_map_of_mem hgroup

/-- Placing a founder. -/
theorem place_founder {last : Nat} {rule : ρ} (hrestricted : Restricted rules selection groups)
    (hrespects : RespectsFounders rules (selection ++ [last])) (hrule : rules[last]? = some rule)
    (hself : founderOf? rules last = some last) :
    Restricted rules (selection ++ [last]) (insert ⟨last, rule⟩ groups) := by
  have hlast : foundersIn rules (selection ++ [last]) = foundersIn rules selection ++ [last] := by
    simp [foundersIn, hself]
  have hlt : ∀ founder ∈ foundersIn rules selection, founder < last := by
    have hfounders := hrespects.foundersIncreasing
    rw [hlast, List.pairwise_append] at hfounders
    exact fun founder hfounder => hfounders.2.2 founder hfounder last List.mem_cons_self
  have hrejects : ∀ group ∈ groups, accepts group ⟨last, rule⟩ = false := by
    intro group hgroup
    have hmem := hrestricted.founder_mem hgroup
    have hmerges := mergesAt_earlier_founder hself (mem_foundersIn_iff.1 hmem).2 (hlt _ hmem)
    rw [mergesAt_eq_some_accepts ⟨last, rule⟩ (hrestricted.rules group hgroup) hrule] at hmerges
    exact Option.some.inj hmerges
  rw [insert_of_all_reject hrejects]
  constructor
  · rw [List.map_append, hrestricted.founders, hlast]
    rfl
  · intro group hgroup
    rw [List.mem_append, List.mem_singleton] at hgroup
    rcases hgroup with hold | rfl
    · have hne : founderOf? rules last ≠ some group.founder.position := by
        rw [hself]
        intro hsame
        exact absurd (hlt _ (hrestricted.founder_mem hold)) (by simp [← Option.some.inj hsame])
      rw [hrestricted.members group hold, keptOf_append_of_ne selection hne]
    · rw [keptOf_append_of_eq selection hself, hrespects.keptOf_founder_eq_nil]
      rfl
  · intro group hgroup
    rw [List.mem_append, List.mem_singleton] at hgroup
    rcases hgroup with hold | rfl
    · exact hrestricted.rules group hold
    · exact hrule

/-- Placing a member after the founder of its group. -/
theorem place_follower {last founder : Nat} {rule : ρ}
    (hrestricted : Restricted rules selection groups)
    (hrespects : RespectsFounders rules (selection ++ [last])) (hrule : rules[last]? = some rule)
    (hfounder : founderOf? rules last = some founder) (hne : last ≠ founder) :
    Restricted rules (selection ++ [last]) (insert ⟨last, rule⟩ groups) := by
  have hfollows : founderOf? rules last ≠ some last := by
    intro hself
    exact hne (Option.some.inj (hself.symm.trans hfounder))
  have hsame : foundersIn rules (selection ++ [last]) = foundersIn rules selection := by
    simp [foundersIn, hfollows]
  have hmem : founder ∈ foundersIn rules selection := by
    obtain ⟨other, hother, hfounds⟩ := hrespects.founderFirst selection last [] rfl hfollows
    obtain rfl : other = founder := Option.some.inj (hfounds.symm.trans hfounder)
    exact mem_foundersIn_iff.2 ⟨hother, founderOf?_founder hfounder⟩
  rw [← hrestricted.founders] at hmem
  obtain ⟨group, hgroup, rfl⟩ := List.mem_map.1 hmem
  obtain ⟨before, after, rfl⟩ := List.append_of_mem hgroup
  -- The groups stand in the order of their founders, so only one has this founder.
  have hordered := hrespects.init.foundersIncreasing
  rw [← hrestricted.founders, List.map_append, List.map_cons, List.pairwise_append] at hordered
  have hearlier : ∀ other ∈ before, other.founder.position < group.founder.position :=
    fun other hother => hordered.2.2 _ (List.mem_map_of_mem hother) _ List.mem_cons_self
  have hlater : ∀ other ∈ after, group.founder.position < other.founder.position :=
    fun other hother => List.rel_of_pairwise_cons hordered.2.1 (List.mem_map_of_mem hother)
  have hrejects : ∀ other ∈ before, accepts other ⟨last, rule⟩ = false := by
    intro other hother
    have hin : other ∈ before ++ group :: after := List.mem_append_left _ hother
    have hmerges := mergesAt_earlier_founder hfounder
      (mem_foundersIn_iff.1 (hrestricted.founder_mem hin)).2 (hearlier other hother)
    rw [mergesAt_eq_some_accepts ⟨last, rule⟩ (hrestricted.rules other hin) hrule] at hmerges
    exact Option.some.inj hmerges
  have haccepts : accepts group ⟨last, rule⟩ = true := by
    have hmerges := mergesAt_founder hfounder hne
    rw [mergesAt_eq_some_accepts ⟨last, rule⟩ (hrestricted.rules group hgroup) hrule] at hmerges
    exact Option.some.inj hmerges
  have hothers : ∀ other ∈ before ++ after,
      other.positions = keptOf rules (selection ++ [last]) other.founder.position := by
    intro other hother
    have hapart : founderOf? rules last ≠ some other.founder.position := by
      intro hlast
      have hposition := Option.some.inj (hfounder.symm.trans hlast)
      rcases List.mem_append.1 hother with hbefore | hafter
      · exact absurd (hearlier other hbefore) (by simp [hposition])
      · exact absurd (hlater other hafter) (by simp [hposition])
    rw [keptOf_append_of_ne selection hapart]
    apply hrestricted.members
    simpa [or_left_comm] using Or.inr hother
  rw [insert_of_first_accepts hrejects haccepts]
  constructor
  · rw [hsame, ← hrestricted.founders]
    simp
  · intro other hother
    rw [List.mem_append, List.mem_cons] at hother
    rcases hother with hbefore | rfl | hafter
    · exact hothers other (List.mem_append_left _ hbefore)
    · rw [Group.positions_add, Group.founder_add, hrestricted.members group hgroup,
        keptOf_append_of_eq selection hfounder]
    · exact hothers other (List.mem_append_right _ hafter)
  · intro other hother
    rw [List.mem_append, List.mem_cons] at hother
    rcases hother with hbefore | rfl | hafter
    · exact hrestricted.rules other (List.mem_append_left _ hbefore)
    · exact hrestricted.rules group hgroup
    · exact hrestricted.rules other (List.mem_append_right _ (List.mem_cons_of_mem _ hafter))

end Restricted

theorem restricted_groupsOf {rules : List ρ} {selection : List Nat}
    (hrespects : RespectsFounders rules selection) :
    Restricted rules selection (groupsOf (membersAt rules selection)) := by
  induction selection using List.reverseRecOn with
  | nil => constructor <;> simp [groupsOf, membersAt, foundersIn]
  | append_singleton selection last ih =>
      have hlt : last < rules.length := hrespects.inRange last (by simp)
      have hrule : rules[last]? = some rules[last] := List.getElem?_eq_getElem hlt
      rw [membersAt_append_singleton selection hlt, groupsOf_append_singleton]
      obtain ⟨founder, hfounder⟩ := exists_founderOf? hlt
      by_cases hself : last = founder
      · subst hself
        exact (ih hrespects.init).place_founder hrespects hrule hfounder
      · exact (ih hrespects.init).place_follower hrespects hrule hfounder hself

/-- Grouping the rules of a selection gives, for each founder in it in order, the members of its
group that the selection has, in the order of the selection, and no other group. -/
theorem groupPositions_rulesAt (rules : List ρ) (selection : List Nat)
    (hrespects : RespectsFounders rules selection) :
    (groupPositions (rulesAt rules selection)).map (List.map (fun place => selection[place]?)) =
      (foundersIn rules selection).map
        (fun founder => (keptOf rules selection founder).map some) := by
  have hrestricted := restricted_groupsOf hrespects
  have hmoved := groupsOf_moved (fun place => selection.getD place 0)
    (membersOf (rulesAt rules selection))
  rw [map_moved_membersOf_rulesAt hrespects.inRange] at hmoved
  have hplaces : ∀ group ∈ groupPositions (rulesAt rules selection),
      group.map (fun place => selection[place]?) =
        (group.map (fun place => selection.getD place 0)).map some := by
    intro group hgroup
    rw [List.map_map]
    refine List.map_congr_left fun place hplace => ?_
    have hlt := lt_length_of_covers (isGrouping_groupPositions _).covers group hgroup place hplace
    rw [length_rulesAt hrespects.inRange] at hlt
    simp [hlt]
  calc (groupPositions (rulesAt rules selection)).map (List.map (fun place => selection[place]?))
      = (groupsOf (membersAt rules selection)).map (fun group => group.positions.map some) := by
        rw [List.map_congr_left hplaces, hmoved, groupPositions_eq, List.map_map, List.map_map]
        simp only [Function.comp_def, Group.positions_moved]
    _ = (groupsOf (membersAt rules selection)).map
          (fun group => (keptOf rules selection group.founder.position).map some) :=
        List.map_congr_left fun group hgroup => by rw [hrestricted.members group hgroup]
    _ = (foundersIn rules selection).map
          (fun founder => (keptOf rules selection founder).map some) := by
        rw [← hrestricted.founders, List.map_map]
        rfl

/-- Four rules of which the first accepts the second and the fourth, and the third, too, would
accept the fourth.  The selection takes the first group in another order and without its second
member. -/
theorem groupPositions_rulesAt_reordered :
    let rule (number : Nat) (accepts : List Bool) : TabledRule :=
      ⟨number, "", "", .normal, false, accepts⟩
    let rules := [rule 0 [], rule 1 [true], rule 2 [], rule 3 [true, false, true]]
    RespectsFounders rules [0, 3, 2] ∧
      (groupPositions (rulesAt rules [0, 3, 2])).map (List.map (fun place => [0, 3, 2][place]?)) =
        [[some 0, some 3], [some 2]] := by
  intro rule rules
  have hrespects : RespectsFounders rules [0, 3, 2] := by
    constructor
    · decide
    · decide
    · decide
    · intro before position after hsplit hfollows
      rcases before with _ | ⟨first, _ | ⟨second, _ | ⟨third, before⟩⟩⟩
      · obtain ⟨rfl, -⟩ := List.cons.inj hsplit
        exact absurd (by decide) hfollows
      · obtain ⟨rfl, hrest⟩ := List.cons.inj hsplit
        obtain ⟨rfl, -⟩ := List.cons.inj hrest
        exact ⟨0, List.mem_cons_self, by decide⟩
      · obtain ⟨-, hrest⟩ := List.cons.inj hsplit
        obtain ⟨-, hlast⟩ := List.cons.inj hrest
        obtain ⟨rfl, -⟩ := List.cons.inj hlast
        exact absurd (by decide) hfollows
      · simp at hsplit
  exact ⟨hrespects, groupPositions_rulesAt rules [0, 3, 2] hrespects⟩

end Grouping

end OpeningTimes

import OpeningTimes.Proofs.Grouping.Classes
import OpeningTimes.Proofs.Text.Legible

/-!
The records of a grouping.  Every decision is recorded when it is made, while groups are still
growing.  Placing more members leaves the numbers and the founders of the groups alone, so what
was recorded is true of the groups in the end.
-/

namespace OpeningTimes.Grouping

variable {ρ : Type}

theorem founder_mem_positions (group : Group ρ) : group.founder.position ∈ group.positions :=
  List.mem_cons_self

theorem mem_positions_of_follower {group : Group ρ} {position : Nat}
    (hfollower : position ∈ group.followers.map Member.position) : position ∈ group.positions :=
  List.mem_cons_of_mem group.founder.position hfollower

/-- The groups bear a decision about the rule at a position out. -/
inductive Borne (groups : List (Group ρ)) (position : Nat) : Decision ρ → Prop
  | founds {number : Nat} {group : Group ρ} (hgroup : groups[number]? = some group)
      (hfounder : group.founder.position = position) : Borne groups position (.founds number)
  | joins {number : Nat} {group : Group ρ} (hgroup : groups[number]? = some group)
      (hfollower : position ∈ group.followers.map Member.position) :
      Borne groups position (.joins group.founder)

def foundingRecord (position number : Nat) : LogRecord :=
  ⟨.trace, target, "rule " ++ toString position ++ " founds group " ++ toString number⟩

theorem foundingRecord_injective (position : Nat) :
    Function.Injective (foundingRecord position) := by
  intro number other hsame
  have htext := congrArg LogRecord.text hsame
  simp only [foundingRecord] at htext
  apply Text.toString_nat_injective
  exact (String.append_right_inj _).1 htext

variable [OpeningRule ρ]

def joiningRecord (position : Nat) (founder : ρ) : LogRecord :=
  ⟨.trace, target,
    "rule " ++ toString position ++ " joins group founded by `" ++ OpeningRule.text founder ++ "`"⟩

def closingRecord (rules : List ρ) : LogRecord :=
  ⟨.debug, target,
    "grouped " ++ toString rules.length ++ " rules into "
      ++ toString (groupRules rules).value.length ++ " groups"⟩

/-- The two sorts of records differ in the first letter after the position. -/
theorem foundingRecord_ne_joiningRecord (position number : Nat) (founder : ρ) :
    foundingRecord position number ≠ joiningRecord position founder := by
  intro hsame
  have htext := congrArg (fun record => record.text.toList) hsame
  simp [foundingRecord, joiningRecord] at htext

def decisionRecord (position : Nat) : Decision ρ → LogRecord
  | .founds number => foundingRecord position number
  | .joins founder => joiningRecord position founder.rule

theorem records_step (groups : List (Group ρ)) (member : Member ρ) :
    (step groups member).records = [decisionRecord member.position (decision groups member)] := by
  cases hdecision : decision groups member with
  | founds number => simp [step, hdecision, decisionText, decisionRecord, foundingRecord]
  | joins founder => simp [step, hdecision, decisionText, decisionRecord, joiningRecord]

section Step

/-- A group keeps its number, its founder and its followers when a member is placed. -/
theorem insert_keeps (member : Member ρ) {groups : List (Group ρ)} {number : Nat}
    {group : Group ρ} (hgroup : groups[number]? = some group) :
    ∃ grown, (insert member groups)[number]? = some grown ∧ grown.founder = group.founder ∧
      group.followers ⊆ grown.followers := by
  induction groups generalizing number with
  | nil => simp at hgroup
  | cons first rest ih =>
      cases haccepts : accepts first member with
      | true =>
          rw [insert_of_accepts haccepts]
          cases number with
          | zero =>
              obtain rfl : first = group := by simpa using hgroup
              refine ⟨first.add member, rfl, rfl, ?_⟩
              exact List.subset_append_left first.followers [member]
          | succ number => exact ⟨group, hgroup, rfl, List.Subset.refl group.followers⟩
      | false =>
          rw [insert_of_rejects haccepts]
          cases number with
          | zero => exact ⟨group, hgroup, rfl, List.Subset.refl group.followers⟩
          | succ number => exact ih hgroup

/-- What the groups bear out is borne out after a member has been placed, too. -/
theorem Borne.insert {groups : List (Group ρ)} {position : Nat} {made : Decision ρ}
    (hborne : Borne groups position made) (member : Member ρ) :
    Borne (insert member groups) position made := by
  cases hborne with
  | founds hgroup hfounder =>
      obtain ⟨grown, hgrown, hsame, -⟩ := insert_keeps member hgroup
      exact .founds hgrown (hsame ▸ hfounder)
  | joins hgroup hfollower =>
      obtain ⟨grown, hgrown, hsame, hfollowers⟩ := insert_keeps member hgroup
      rw [← hsame]
      apply Borne.joins hgrown
      exact List.map_subset Member.position hfollowers hfollower

/-- The groups bear a decision out as soon as the member has been placed. -/
theorem borne_decision (groups : List (Group ρ)) (member : Member ρ) :
    Borne (Grouping.insert member groups) member.position (decision groups member) := by
  rcases insert_cases member groups with
    ⟨hrejects, hinsert⟩ | ⟨before, group, after, rfl, hbefore, haccepts, hinsert⟩
  · have hnone : groups.find? (fun group => accepts group member) = none := by
      simpa using hrejects
    have hfounded : (groups ++ [⟨member, []⟩])[groups.length]? = some ⟨member, []⟩ := by simp
    rw [hinsert, decision, hnone]
    exact .founds hfounded rfl
  · have hfirst : (before ++ group :: after).find? (fun group => accepts group member)
        = some group := by
      rw [List.find?_eq_some_iff_append]
      exact ⟨haccepts, before, after, rfl, by simpa using hbefore⟩
    have hgrown : (before ++ group.add member :: after)[before.length]?
        = some (group.add member) := by simp
    rw [hinsert, decision, hfirst]
    apply Borne.joins hgrown
    simp [Group.add]

end Step

section Run

/-- Later placements leave true what the groups bear out. -/
theorem Borne.foldl {groups : List (Group ρ)} {position : Nat} {made : Decision ρ}
    (hborne : Borne groups position made) (members : List (Member ρ)) :
    Borne (members.foldl (fun groups member => Grouping.insert member groups) groups)
      position made := by
  induction members generalizing groups with
  | nil => exact hborne
  | cons member rest ih => exact ih (hborne.insert member)

/-- The record is that of a decision about the rule at the position that the groups bear out. -/
def Tells (groups : List (Group ρ)) (position : Nat) (record : LogRecord) : Prop :=
  ∃ made, Borne groups position made ∧ record = decisionRecord position made

/-- The run: there is one record for each member, and the groups in the end bear all of them out. -/
theorem tells_place (groups : List (Group ρ)) (members : List (Member ρ)) :
    List.Forall₂
      (fun member => Tells (members.foldl (fun groups member => Grouping.insert member groups)
        groups) member.position)
      members (place groups members).records := by
  induction members generalizing groups with
  | nil => exact .nil
  | cons member rest ih =>
      have hrecords : (place groups (member :: rest)).records =
          decisionRecord member.position (decision groups member) ::
            (place (Grouping.insert member groups) rest).records := by
        rw [place, Logged.records_bind, records_step]
        rfl
      rw [hrecords, List.foldl_cons]
      refine .cons ?_ (ih (Grouping.insert member groups))
      exact ⟨decision groups member, (borne_decision groups member).foldl rest, rfl⟩

end Run

section Truth

variable {rules : List ρ}

/-- The records of the placements are followed by the one about all groups. -/
theorem records_groupRules_eq (rules : List ρ) :
    (groupRules rules).records = (place [] (membersOf rules)).records ++ [closingRecord rules] :=
  rfl

/-- A position stands in one group only. -/
theorem number_eq_of_mem_positions {number other : Nat} {group another : Group ρ}
    (hgroup : (groupRules rules).value[number]? = some group)
    (hanother : (groupRules rules).value[other]? = some another) {position : Nat}
    (hposition : position ∈ group.positions) (hmember : position ∈ another.positions) :
    number = other := by
  have hnodup : (groupPositions rules).flatten.Nodup :=
    (isGrouping_groupPositions rules).covers.nodup_iff.2 List.nodup_range
  have hdisjoint := List.pairwise_iff_getElem.1 (List.nodup_flatten.1 hnodup).2
  obtain ⟨hlt, rfl⟩ := List.getElem?_eq_some_iff.1 hgroup
  obtain ⟨hltOther, rfl⟩ := List.getElem?_eq_some_iff.1 hanother
  simp only [groupPositions, List.length_map, List.getElem_map] at hdisjoint
  rcases Nat.lt_trichotomy number other with hless | heq | hgreater
  · exact absurd hmember (hdisjoint number other hlt hltOther hless hposition)
  · exact heq
  · exact absurd hposition (hdisjoint other number hltOther hlt hgreater hmember)

/-- A founder does not follow in its own group. -/
theorem founder_not_mem_followers {group : Group ρ} (hgroup : group ∈ (groupRules rules).value) :
    group.founder.position ∉ group.followers.map Member.position := by
  have hincreasing := (isGrouping_groupPositions rules).increasing group.positions
    (List.mem_map_of_mem hgroup)
  intro hfollower
  exact Nat.lt_irrefl _ (List.rel_of_pairwise_cons hincreasing hfollower)

/-- A record says that a group was founded exactly where the group has its founder. -/
theorem Tells.eq_foundingRecord_iff {position : Nat} {record : LogRecord}
    (htells : Tells (groupRules rules).value position record) (number : Nat) :
    record = foundingRecord position number ↔
      ∃ group, (groupRules rules).value[number]? = some group ∧
        group.founder.position = position := by
  obtain ⟨made, hborne, rfl⟩ := htells
  cases hborne with
  | @founds found group hgroup hfounder =>
      rw [decisionRecord, (foundingRecord_injective position).eq_iff]
      constructor
      · rintro rfl
        exact ⟨group, hgroup, hfounder⟩
      · rintro ⟨other, hother, hsame⟩
        apply number_eq_of_mem_positions hgroup hother
        · exact hfounder ▸ founder_mem_positions group
        · exact hsame ▸ founder_mem_positions other
  | @joins joined group hgroup hfollower =>
      constructor
      · intro hfounding
        exact absurd hfounding.symm (foundingRecord_ne_joiningRecord position number _)
      · rintro ⟨other, hother, hsame⟩
        have hnumber : joined = number := by
          apply number_eq_of_mem_positions hgroup hother (mem_positions_of_follower hfollower)
          exact hsame ▸ founder_mem_positions other
        rw [hnumber, hother] at hgroup
        obtain rfl := Option.some.inj hgroup
        exact absurd (hsame ▸ hfollower) (founder_not_mem_followers (List.mem_of_getElem? hother))

/-- Wherever a group has no founder but another member, the record names the group's founder. -/
theorem Tells.eq_joiningRecord {position : Nat} {record : LogRecord}
    (htells : Tells (groupRules rules).value position record) {group : Group ρ}
    (hgroup : group ∈ (groupRules rules).value) (hmember : position ∈ group.positions)
    (hfollows : group.founder.position ≠ position) :
    record = joiningRecord position group.founder.rule := by
  obtain ⟨number, hnumber⟩ := List.mem_iff_getElem?.1 hgroup
  obtain ⟨made, hborne, rfl⟩ := htells
  cases hborne with
  | @founds found founded hfounded hfounder =>
      have hsame : found = number := by
        apply number_eq_of_mem_positions hfounded hnumber _ hmember
        exact hfounder ▸ founder_mem_positions founded
      rw [hsame, hnumber] at hfounded
      obtain rfl := Option.some.inj hfounded
      exact absurd hfounder hfollows
  | @joins joined founded hfounded hfollower =>
      have hsame : joined = number := by
        apply number_eq_of_mem_positions hfounded hnumber _ hmember
        exact mem_positions_of_follower hfollower
      rw [hsame, hnumber] at hfounded
      obtain rfl := Option.some.inj hfounded
      rfl

/-- Groups that come later have later founders. -/
theorem founder_lt_founder_iff {number other : Nat} {group another : Group ρ}
    (hgroup : (groupRules rules).value[number]? = some group)
    (hanother : (groupRules rules).value[other]? = some another) :
    group.founder.position < another.founder.position ↔ number < other := by
  have hheads : (groupPositions rules).filterMap List.head? =
      (groupRules rules).value.map (fun group => group.founder.position) := by
    rw [groupPositions, List.filterMap_map]
    exact congrFun List.filterMap_eq_map (groupRules rules).value
  have hincreasing := (isGrouping_groupPositions rules).foundersIncreasing
  rw [hheads, List.pairwise_iff_getElem] at hincreasing
  simp only [List.length_map, List.getElem_map] at hincreasing
  obtain ⟨hlt, rfl⟩ := List.getElem?_eq_some_iff.1 hgroup
  obtain ⟨hltOther, rfl⟩ := List.getElem?_eq_some_iff.1 hanother
  constructor
  · intro hfounders
    by_contra hnot
    rcases Nat.lt_or_eq_of_le (Nat.le_of_not_lt hnot) with hless | rfl
    · exact Nat.lt_asymm hfounders (hincreasing other number hltOther hlt hless)
    · exact Nat.lt_irrefl _ hfounders
  · exact hincreasing number other hlt hltOther

/-- There is a record for every position, which tells what the groups say of the rule there. -/
theorem exists_record {position : Nat} (hposition : position < rules.length) :
    ∃ record, (place [] (membersOf rules)).records[position]? = some record ∧
      Tells (groupRules rules).value position record := by
  have htells := tells_place [] (membersOf rules)
  have hmember : (membersOf rules)[position]? = some ⟨position, rules[position]⟩ := by
    simp [membersOf, hposition]
  obtain ⟨hlt, hsame⟩ := List.getElem?_eq_some_iff.1 hmember
  have hrecord : position < (place [] (membersOf rules)).records.length :=
    htells.length_eq ▸ hlt
  have htold := htells.get hlt hrecord
  simp only [List.get_eq_getElem, hsame] at htold
  rw [value_groupRules]
  exact ⟨_, List.getElem?_eq_getElem hrecord, htold⟩

theorem founding_iff {position : Nat} (hposition : position < rules.length) (number : Nat) :
    (place [] (membersOf rules)).records[position]? = some (foundingRecord position number) ↔
      ∃ group, (groupRules rules).value[number]? = some group ∧
        group.founder.position = position := by
  obtain ⟨record, hrecord, htells⟩ := exists_record hposition
  rw [hrecord, Option.some.injEq]
  exact htells.eq_foundingRecord_iff number

theorem joining_of_mem {position : Nat} {group : Group ρ}
    (hgroup : group ∈ (groupRules rules).value) (hmember : position ∈ group.positions)
    (hfollows : group.founder.position ≠ position) :
    (place [] (membersOf rules)).records[position]? =
      some (joiningRecord position group.founder.rule) := by
  have hposition : position < rules.length := position_lt (List.mem_map_of_mem hgroup) hmember
  obtain ⟨record, hrecord, htells⟩ := exists_record hposition
  rw [hrecord, htells.eq_joiningRecord hgroup hmember hfollows]

end Truth

/-- Grouping writes one record about every rule, in order, and a last one about all groups.  The
record about a rule names a group as founded exactly when the rule is the first member of the group
with that number in the end, and else it gives the text of the first member of the only group in
which the rule is.  So the numbers of founded groups count up from zero. -/
theorem groupRules_records (rules : List ρ) :
    let groups := (groupRules rules).value
    ∃ traces : List LogRecord,
      (groupRules rules).records = traces ++ [closingRecord rules] ∧
      traces.length = rules.length ∧
      (∀ position < rules.length,
        (∀ number, traces[position]? = some (foundingRecord position number) ↔
          ∃ group, groups[number]? = some group ∧ group.founder.position = position) ∧
        ∃ group ∈ groups, position ∈ group.positions ∧
          (∀ other ∈ groups, position ∈ other.positions → other = group) ∧
          (group.founder.position ≠ position →
            traces[position]? = some (joiningRecord position group.founder.rule))) ∧
      (∀ number, number < groups.length ↔
        ∃ position, traces[position]? = some (foundingRecord position number)) ∧
      ∀ position number later next, traces[position]? = some (foundingRecord position number) →
        traces[later]? = some (foundingRecord later next) → (position < later ↔ number < next) := by
  have hlength : (place [] (membersOf rules)).records.length = rules.length := by
    rw [← (tells_place [] (membersOf rules)).length_eq]
    simp [membersOf]
  have hlt : ∀ {position : Nat} {record : LogRecord},
      (place [] (membersOf rules)).records[position]? = some record → position < rules.length := by
    intro position record hrecord
    obtain ⟨hbound, -⟩ := List.getElem?_eq_some_iff.1 hrecord
    exact hlength ▸ hbound
  refine ⟨_, records_groupRules_eq rules, hlength, ?_, ?_, ?_⟩
  · intro position hposition
    refine ⟨founding_iff hposition, ?_⟩
    obtain ⟨positions, hpositions, hmember⟩ := exists_group rules hposition
    obtain ⟨group, hgroup, rfl⟩ := List.mem_map.1 hpositions
    refine ⟨group, hgroup, hmember, ?_, joining_of_mem hgroup hmember⟩
    intro other hother hshared
    obtain ⟨number, hnumber⟩ := List.mem_iff_getElem?.1 hgroup
    obtain ⟨another, hanother⟩ := List.mem_iff_getElem?.1 hother
    have hsame := number_eq_of_mem_positions hnumber hanother hmember hshared
    rw [hsame, hanother] at hnumber
    exact Option.some.inj hnumber
  · intro number
    constructor
    · intro hnumber
      have hgroup := List.getElem?_eq_getElem hnumber
      have hfounder := position_lt (List.mem_map_of_mem (List.mem_of_getElem? hgroup))
        (founder_mem_positions _)
      exact ⟨_, (founding_iff hfounder number).2 ⟨_, hgroup, rfl⟩⟩
    · rintro ⟨position, hrecord⟩
      obtain ⟨group, hgroup, -⟩ := (founding_iff (hlt hrecord) number).1 hrecord
      exact (List.getElem?_eq_some_iff.1 hgroup).1
  · intro position number later next hrecord hlater
    obtain ⟨group, hgroup, rfl⟩ := (founding_iff (hlt hrecord) number).1 hrecord
    obtain ⟨another, hanother, rfl⟩ := (founding_iff (hlt hlater) next).1 hlater
    exact founder_lt_founder_iff hgroup hanother

end OpeningTimes.Grouping

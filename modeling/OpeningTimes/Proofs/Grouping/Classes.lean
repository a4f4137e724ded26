import Mathlib.Data.Finset.Card
import Mathlib.Data.Finset.Dedup
import Mathlib.Data.List.Nodup
import OpeningTimes.Proofs.Grouping.Selection
import OpeningTimes.Rule.Basic

/-!
Grouping by a key.  Where rules merge exactly when they have the same key, no founder is special:
the groups are the classes of rules with one key, whatever the order of the rules.  Opening-times
rules are of this sort, and their key is all of the rule but its days and times.
-/

namespace OpeningTimes

/-- The rule without its days and times. -/
def Rule.cleared (rule : Rule) : Rule :=
  { rule with days := [], times := [] }

namespace Grouping

variable {ρ κ : Type}

def keyAt (key : ρ → κ) (rules : List ρ) (position : Nat) : Option κ :=
  rules[position]?.map key

/-- Reordered rules bring their keys along. -/
theorem keyAt_rulesAt (key : ρ → κ) {rules : List ρ} {order : List Nat}
    (hrange : ∀ position ∈ order, position < rules.length) {place position : Nat}
    (hplace : order[place]? = some position) :
    keyAt key (rulesAt rules order) place = keyAt key rules position := by
  induction order generalizing place with
  | nil => simp at hplace
  | cons first rest ih =>
      obtain ⟨rule, hfirst⟩ : ∃ rule, rules[first]? = some rule :=
        ⟨_, List.getElem?_eq_getElem (hrange first List.mem_cons_self)⟩
      have hrest : ∀ position ∈ rest, position < rules.length :=
        fun position hposition => hrange position (List.mem_cons_of_mem first hposition)
      rw [rulesAt, List.filterMap_cons, hfirst]
      cases place with
      | zero =>
          obtain rfl : first = position := by simpa using hplace
          rw [keyAt, keyAt, hfirst, List.getElem?_cons_zero]
      | succ place =>
          rw [List.getElem?_cons_succ] at hplace
          exact ih hrest hplace

variable [OpeningRule ρ]

/-- Rules merge exactly when they have the same key. -/
def MergesBy (key : ρ → κ) : Prop :=
  ∀ rule other : ρ, OpeningRule.mergesWith rule other = true ↔ key rule = key other

theorem mergesBy_cleared : MergesBy Rule.cleared := by
  intro rule other
  change rule.mergesWith other = true ↔ _
  cases rule
  cases other
  simp [Rule.mergesWith, Rule.cleared, and_assoc]

/-- No rule of the one group has the key of a rule of the other. -/
def Apart (key : ρ → κ) (rules : List ρ) (group other : List Nat) : Prop :=
  ∀ position ∈ group, ∀ place ∈ other, keyAt key rules position ≠ keyAt key rules place

instance (key : ρ → κ) (rules : List ρ) : Std.Symm (Apart key rules) where
  symm _ _ hapart position hposition place hplace :=
    (hapart place hplace position hposition).symm

section Keys

variable {key : ρ → κ} {rules : List ρ}

theorem mergesAt_eq_some_true_iff (hkey : MergesBy key) {position founder : Nat}
    (hposition : position < rules.length) (hfounder : founder < rules.length) :
    mergesAt rules position founder = some true ↔
      keyAt key rules position = keyAt key rules founder := by
  simp [mergesAt, keyAt, hposition, hfounder, hkey rules[position] rules[founder]]

theorem position_lt {group : List Nat} (hgroup : group ∈ groupPositions rules) {position : Nat}
    (hposition : position ∈ group) : position < rules.length :=
  lt_length_of_covers (isGrouping_groupPositions rules).covers group hgroup position hposition

theorem exists_group (rules : List ρ) {position : Nat} (hposition : position < rules.length) :
    ∃ group ∈ groupPositions rules, position ∈ group := by
  have hcovers := (isGrouping_groupPositions rules).covers
  exact List.mem_flatten.1 (hcovers.mem_iff.2 (List.mem_range.2 hposition))

/-- All rules of a group have the key of its founder. -/
theorem keyAt_eq_of_mem (hkey : MergesBy key) {group : List Nat}
    (hgroup : group ∈ groupPositions rules) {position place : Nat} (hposition : position ∈ group)
    (hplace : place ∈ group) : keyAt key rules position = keyAt key rules place := by
  obtain ⟨founder, followers, rfl⟩ :=
    List.exists_cons_of_ne_nil ((isGrouping_groupPositions rules).nonempty group hgroup)
  have hfounder := position_lt hgroup List.mem_cons_self
  have hall : ∀ member ∈ founder :: followers,
      keyAt key rules member = keyAt key rules founder := by
    intro member hmember
    rcases List.mem_cons.1 hmember with rfl | hfollower
    · rfl
    · have hjoined := (isGrouping_groupPositions rules).joined _ hgroup founder rfl
        member hfollower
      exact (mergesAt_eq_some_true_iff hkey (position_lt hgroup hmember) hfounder).1 hjoined
  exact (hall position hposition).trans (hall place hplace).symm

/-- A founder passes over all that does not have its key, so later groups have other keys. -/
theorem pairwise_apart (hkey : MergesBy key) (rules : List ρ) :
    (groupPositions rules).Pairwise (Apart key rules) := by
  refine (isGrouping_groupPositions rules).passedOver.imp_of_mem ?_
  intro earlier later hearlier hlater hpassed position hposition place hplace hsame
  obtain ⟨founder, followers, rfl⟩ :=
    List.exists_cons_of_ne_nil ((isGrouping_groupPositions rules).nonempty earlier hearlier)
  have hfounder : founder < rules.length := position_lt hearlier List.mem_cons_self
  have hrejects := hpassed founder rfl place hplace
  have hfirst := keyAt_eq_of_mem hkey hearlier hposition List.mem_cons_self
  have haccepts := (mergesAt_eq_some_true_iff hkey (position_lt hlater hplace) hfounder).2
    (hsame.symm.trans hfirst)
  exact absurd (hrejects.symm.trans haccepts) (by simp)

theorem apart_of_ne (hkey : MergesBy key) {group other : List Nat}
    (hgroup : group ∈ groupPositions rules) (hother : other ∈ groupPositions rules)
    (hne : group ≠ other) : Apart key rules group other :=
  (pairwise_apart hkey rules).forall hgroup hother hne

/-- A group holds all rules with the key of one of its members. -/
theorem mem_iff_keyAt_eq (hkey : MergesBy key) {group : List Nat}
    (hgroup : group ∈ groupPositions rules) {position : Nat} (hposition : position ∈ group)
    (place : Nat) :
    place ∈ group ↔
      place < rules.length ∧ keyAt key rules place = keyAt key rules position := by
  constructor
  · intro hplace
    exact ⟨position_lt hgroup hplace, keyAt_eq_of_mem hkey hgroup hplace hposition⟩
  · rintro ⟨hlt, hsame⟩
    obtain ⟨other, hother, hplace⟩ := exists_group rules hlt
    by_cases heq : other = group
    · exact heq ▸ hplace
    · exact absurd hsame (apart_of_ne hkey hother hgroup heq place hplace position hposition)

/-- Two rules share a group exactly when they have the same key. -/
theorem exists_common_group_iff (hkey : MergesBy key) {position place : Nat}
    (hposition : position < rules.length) (hplace : place < rules.length) :
    (∃ group ∈ groupPositions rules, position ∈ group ∧ place ∈ group) ↔
      keyAt key rules position = keyAt key rules place := by
  constructor
  · rintro ⟨group, hgroup, hfirst, hsecond⟩
    exact keyAt_eq_of_mem hkey hgroup hfirst hsecond
  · intro hsame
    obtain ⟨group, hgroup, hmem⟩ := exists_group rules hposition
    exact ⟨group, hgroup, hmem, (mem_iff_keyAt_eq hkey hgroup hmem place).2 ⟨hplace, hsame.symm⟩⟩

/-- The number of groups is the number of different keys. -/
theorem length_groupRules (hkey : MergesBy key) [DecidableEq κ] :
    (groupRules rules).value.length = (rules.map key).toFinset.card := by
  rw [value_groupRules]
  have hfounder : ∀ group ∈ groupsOf (membersOf rules),
      rules[group.founder.position]? = some group.founder.rule :=
    fun group hgroup => rule_of_mem_groupsOf hgroup List.mem_cons_self
  have hnodup : ((groupsOf (membersOf rules)).map (fun group => key group.founder.rule)).Nodup := by
    have hapart := pairwise_apart hkey rules
    rw [groupPositions_eq, List.pairwise_map] at hapart
    refine List.pairwise_map.2 (hapart.imp_of_mem ?_)
    intro group other hgroup hother hapart hsame
    refine hapart group.founder.position List.mem_cons_self other.founder.position
      List.mem_cons_self ?_
    rw [keyAt, keyAt, hfounder group hgroup, hfounder other hother, Option.map_some,
      Option.map_some, hsame]
  have hkeys : ((groupsOf (membersOf rules)).map (fun group => key group.founder.rule)).toFinset =
      (rules.map key).toFinset := by
    ext value
    simp only [List.mem_toFinset, List.mem_map]
    constructor
    · rintro ⟨group, hgroup, rfl⟩
      exact ⟨group.founder.rule, List.mem_of_getElem? (hfounder group hgroup), rfl⟩
    · rintro ⟨rule, hrule, rfl⟩
      obtain ⟨position, hlt, rfl⟩ := List.mem_iff_getElem.1 hrule
      obtain ⟨positions, hgroup, hposition⟩ := exists_group rules hlt
      have hgroups := hgroup
      rw [groupPositions_eq] at hgroups
      obtain ⟨group, hmem, rfl⟩ := List.mem_map.1 hgroups
      have hsame := keyAt_eq_of_mem hkey hgroup hposition
        (show group.founder.position ∈ group.positions from List.mem_cons_self)
      rw [keyAt, keyAt, hfounder group hmem, List.getElem?_eq_getElem hlt, Option.map_some,
        Option.map_some] at hsame
      exact ⟨group, hmem, (Option.some.inj hsame).symm⟩
  rw [← hkeys, List.toFinset_card_of_nodup hnodup, List.length_map]

/-- Where two lists of rules are related in the same way, they are grouped in the same way. -/
theorem groupPositions_congr {rules others : List ρ} (hlength : others.length = rules.length)
    (hmerges : mergesAt others = mergesAt rules) :
    groupPositions others = groupPositions rules := by
  have hjoined : Joined others = Joined rules := by
    funext group
    rw [Joined, Joined, hmerges]
  have hpassed : PassedOver others = PassedOver rules := by
    funext earlier later
    rw [PassedOver, PassedOver, hmerges]
  refine IsGrouping.eq_groupPositions ?_
  have hgroups := isGrouping_groupPositions others
  rw [isGrouping_iff] at hgroups ⊢
  rwa [hlength, hjoined, hpassed] at hgroups

/-- The grouping depends on the rules only through their keys. -/
theorem groupPositions_eq_of_keys (hkey : MergesBy key) {others : List ρ}
    (hsame : others.map key = rules.map key) : groupPositions others = groupPositions rules := by
  classical
  have hmerges : ∀ (rules : List ρ) (position founder : Nat), mergesAt rules position founder =
      ((rules.map key)[position]?).bind fun left =>
        ((rules.map key)[founder]?).map fun right => decide (left = right) := by
    intro rules position founder
    have hanswer : ∀ rule other : ρ,
        OpeningRule.mergesWith rule other = decide (key rule = key other) := by
      intro rule other
      rw [Bool.eq_iff_iff, hkey rule other, decide_eq_true_iff]
    rw [mergesAt, List.getElem?_map, List.getElem?_map]
    cases rules[position]? with
    | none => rfl
    | some rule =>
        cases rules[founder]? with
        | none => rfl
        | some founding => simp [hanswer]
  refine groupPositions_congr (by simpa using congrArg List.length hsame) ?_
  funext position founder
  rw [hmerges, hmerges, hsame]

end Keys

section Reordering

variable {key : ρ → κ} {rules : List ρ} {order : List Nat}

/-- The positions that the members of a group had before the rules were put in an order. -/
def carriedBack (order : List Nat) (group : List Nat) : Finset Nat :=
  (group.filterMap (fun place => order[place]?)).toFinset

theorem mem_carriedBack_iff {group : List Nat} {position : Nat} :
    position ∈ carriedBack order group ↔ ∃ place ∈ group, order[place]? = some position := by
  simp [carriedBack]

/-- A group of the reordered rules, carried back, is the group of any of its members. -/
theorem carriedBack_eq_toFinset (hkey : MergesBy key)
    (horder : order.Perm (List.range rules.length)) {group other : List Nat}
    (hgroup : group ∈ groupPositions (rulesAt rules order)) (hother : other ∈ groupPositions rules)
    {place position : Nat} (hplace : place ∈ group) (hcarried : order[place]? = some position)
    (hposition : position ∈ other) : carriedBack order group = other.toFinset := by
  have hrange : ∀ position ∈ order, position < rules.length :=
    fun position hposition => List.mem_range.1 (horder.mem_iff.1 hposition)
  have hkeyAt := keyAt_rulesAt key hrange hcarried
  ext moved
  rw [mem_carriedBack_iff, List.mem_toFinset, mem_iff_keyAt_eq hkey hother hposition]
  constructor
  · rintro ⟨source, hsource, hmoved⟩
    have hsame := keyAt_eq_of_mem hkey hgroup hsource hplace
    rw [keyAt_rulesAt key hrange hmoved, hkeyAt] at hsame
    exact ⟨hrange moved (List.mem_of_getElem? hmoved), hsame⟩
  · rintro ⟨hlt, hsame⟩
    obtain ⟨source, hsource⟩ :=
      List.mem_iff_getElem?.1 (horder.mem_iff.2 (List.mem_range.2 hlt))
    obtain ⟨hbound, -⟩ := List.getElem?_eq_some_iff.1 hsource
    refine ⟨source, (mem_iff_keyAt_eq hkey hgroup hplace source).2 ⟨?_, ?_⟩, hsource⟩
    · rwa [length_rulesAt hrange]
    · rw [keyAt_rulesAt key hrange hsource, hkeyAt, hsame]

/-- Groups that are made into sets stay different when equal sets have a key in common. -/
theorem nodup_map_groupPositions (hkey : MergesBy key) {toSet : List Nat → Finset Nat}
    (hcommon : ∀ group ∈ groupPositions rules, ∀ other ∈ groupPositions rules,
      toSet group = toSet other → ¬ Apart key rules group other) :
    ((groupPositions rules).map toSet).Nodup :=
  List.pairwise_map.2 <| (pairwise_apart hkey rules).imp_of_mem
    fun hgroup hother hapart hsame => hcommon _ hgroup _ hother hsame hapart

/-- Every order of the rules leads to the same groups. -/
theorem map_carriedBack_perm (hkey : MergesBy key)
    (horder : order.Perm (List.range rules.length)) :
    ((groupPositions (rulesAt rules order)).map (carriedBack order)).Perm
      ((groupPositions rules).map List.toFinset) := by
  have hrange : ∀ position ∈ order, position < rules.length :=
    fun position hposition => List.mem_range.1 (horder.mem_iff.1 hposition)
  have hexists : ∀ group ∈ groupPositions (rulesAt rules order), ∃ place ∈ group,
      ∃ position, order[place]? = some position := by
    intro group hgroup
    obtain ⟨place, rest, rfl⟩ := List.exists_cons_of_ne_nil
      ((isGrouping_groupPositions (rulesAt rules order)).nonempty group hgroup)
    have hlt := position_lt hgroup List.mem_cons_self
    rw [length_rulesAt hrange] at hlt
    exact ⟨place, List.mem_cons_self, order[place], List.getElem?_eq_getElem hlt⟩
  have hcarried : ((groupPositions (rulesAt rules order)).map (carriedBack order)).Nodup := by
    refine nodup_map_groupPositions hkey ?_
    intro group hgroup other hother hsame hapart
    obtain ⟨place, hplace, position, hposition⟩ := hexists group hgroup
    have hmem : position ∈ carriedBack order other :=
      hsame ▸ mem_carriedBack_iff.2 ⟨place, hplace, hposition⟩
    obtain ⟨source, hsource, hmoved⟩ := mem_carriedBack_iff.1 hmem
    refine hapart place hplace source hsource ?_
    rw [keyAt_rulesAt key hrange hposition, keyAt_rulesAt key hrange hmoved]
  have hplain : ((groupPositions rules).map List.toFinset).Nodup := by
    refine nodup_map_groupPositions hkey ?_
    intro group hgroup other hother hsame hapart
    obtain ⟨position, rest, rfl⟩ :=
      List.exists_cons_of_ne_nil ((isGrouping_groupPositions rules).nonempty group hgroup)
    have hmem : position ∈ other := by
      rw [← List.mem_toFinset, ← hsame]
      simp
    exact hapart position List.mem_cons_self position hmem rfl
  refine (List.perm_ext_iff_of_nodup hcarried hplain).2 fun set => ?_
  rw [List.mem_map, List.mem_map]
  constructor
  · rintro ⟨group, hgroup, rfl⟩
    obtain ⟨place, hplace, position, hposition⟩ := hexists group hgroup
    obtain ⟨other, hother, hmem⟩ :=
      exists_group rules (hrange position (List.mem_of_getElem? hposition))
    exact ⟨other, hother,
      (carriedBack_eq_toFinset hkey horder hgroup hother hplace hposition hmem).symm⟩
  · rintro ⟨other, hother, rfl⟩
    obtain ⟨position, rest, rfl⟩ :=
      List.exists_cons_of_ne_nil ((isGrouping_groupPositions rules).nonempty other hother)
    have hlt := position_lt hother List.mem_cons_self
    obtain ⟨place, hplace⟩ := List.mem_iff_getElem?.1 (horder.mem_iff.2 (List.mem_range.2 hlt))
    obtain ⟨hbound, -⟩ := List.getElem?_eq_some_iff.1 hplace
    obtain ⟨group, hgroup, hmem⟩ := exists_group (rulesAt rules order)
      (show place < (rulesAt rules order).length by rwa [length_rulesAt hrange])
    exact ⟨group, hgroup,
      carriedBack_eq_toFinset hkey horder hgroup hother hmem hplace List.mem_cons_self⟩

end Reordering

/-- Rules share a group exactly when they are equal without their days and times, so there are as
many groups as rules that differ in more than that.  Putting the rules in another order leads to
the same groups of rules, and giving them other days and times to the same groups of positions. -/
theorem groups_of_rules_are_classes (rules : List Rule) :
    (∀ i j : Fin rules.length,
      (∃ group ∈ groupPositions rules, i.val ∈ group ∧ j.val ∈ group) ↔
        rules[i].cleared = rules[j].cleared) ∧
    (groupRules rules).value.length = (rules.map Rule.cleared).toFinset.card ∧
    (∀ order : List Nat, order.Perm (List.range rules.length) →
      ((groupPositions (rulesAt rules order)).map (carriedBack order)).Perm
        ((groupPositions rules).map List.toFinset)) ∧
    ∀ (days : Nat → List DayRange) (times : Nat → List TimeSpan),
      groupPositions (rules.mapIdx fun position rule =>
        { rule with days := days position, times := times position }) = groupPositions rules := by
  refine ⟨fun i j => ?_, length_groupRules mergesBy_cleared,
    fun order horder => map_carriedBack_perm mergesBy_cleared horder, fun days times => ?_⟩
  · rw [exists_common_group_iff mergesBy_cleared i.isLt j.isLt]
    simp [keyAt]
  · refine groupPositions_eq_of_keys mergesBy_cleared (List.ext_getElem? fun position => ?_)
    simp only [List.getElem?_map, List.getElem?_mapIdx, Option.map_map]
    rfl

/-- Two rules that switch off and two that do not.  Taken in another order they fall into
the same two groups. -/
theorem groups_of_rules_reordered :
    let rules : List Rule :=
      [{ modifier := some .off }, { days := [⟨.monday, none, []⟩] },
        { modifier := some .off, times := [{ start := 480 }] }, {}]
    [2, 3, 1, 0].Perm (List.range rules.length) ∧
      ((groupPositions (rulesAt rules [2, 3, 1, 0])).map (carriedBack [2, 3, 1, 0])).Perm
        [{0, 2}, {1, 3}] := by
  intro rules
  have horder : [2, 3, 1, 0].Perm (List.range rules.length) := by decide
  have hgroups : (groupPositions rules).map List.toFinset = [{0, 2}, {1, 3}] := by decide
  refine ⟨horder, ?_⟩
  rw [← hgroups]
  exact (groups_of_rules_are_classes rules).2.2.1 [2, 3, 1, 0] horder

end Grouping

end OpeningTimes

import OpeningTimes.Command.Run
import OpeningTimes.Proofs.Grouping.Classes
import OpeningTimes.Proofs.Grouping.Regrouping
import OpeningTimes.Proofs.Text.LineBreaks

/-!
The lines that groups are printed on.  Each group has a line with separators of one kind, and a
line break that does not stand between two groups is one of a comment.
-/

namespace OpeningTimes

open Joining Text

namespace Logged

theorem value_loop {α β : Type} (f : α → Logged β) (items : List α) (done : List β) :
    (List.mapM.loop f items done).value =
      done.reverse ++ items.map (fun item => (f item).value) := by
  induction items generalizing done with
  | nil => simp [List.mapM.loop]
  | cons item items ih => simp [List.mapM.loop, ih]

theorem value_mapM {α β : Type} (f : α → Logged β) (items : List α) :
    (items.mapM f).value = items.map (fun item => (f item).value) :=
  value_loop f items []

end Logged

namespace Joining

variable {ρ : Type} [OpeningRule ρ] {kind : CombinationKind}

/-- Rules of one kind stand behind separators of this kind. -/
theorem joinedText_eq_intercalate (write : ρ → String) {rules : List ρ}
    (hkind : ∀ rule ∈ rules, OpeningRule.kind rule = kind) :
    joinedText write rules = String.intercalate kind.separator (rules.map write) := by
  induction rules with
  | nil => rfl
  | cons rule rules ih =>
      have hrest : ∀ other ∈ rules, OpeningRule.kind other = kind :=
        fun other hother => hkind other (List.mem_cons_of_mem rule hother)
      cases rules with
      | nil => simp [joinedText, followers]
      | cons next others =>
          have hnext : OpeningRule.kind next = kind := hrest next List.mem_cons_self
          rw [← List.singleton_append, joinedText_append_cons, hnext, ih hrest, joinedText,
            followers]
          simp [String.intercalate_cons_cons, String.append_assoc]

end Joining

namespace Grouping

section Selections

variable {ρ : Type}

theorem rulesAt_append (rules : List ρ) (selection others : List Nat) :
    rulesAt rules (selection ++ others) = rulesAt rules selection ++ rulesAt rules others :=
  List.filterMap_append

theorem rulesAt_flatten (rules : List ρ) (selections : List (List Nat)) :
    rulesAt rules selections.flatten = selections.flatMap (rulesAt rules) := by
  induction selections with
  | nil => rfl
  | cons selection selections ih =>
      rw [List.flatten_cons, rulesAt_append, ih, List.flatMap_cons]

/-- All positions in order select all rules. -/
theorem rulesAt_range (rules : List ρ) : rulesAt rules (List.range rules.length) = rules := by
  induction rules using List.reverseRecOn with
  | nil => rfl
  | append_singleton rules last ih =>
      have hsame : rulesAt (rules ++ [last]) (List.range rules.length) =
          rulesAt rules (List.range rules.length) := by
        apply List.filterMap_congr
        intro position hposition
        exact List.getElem?_append_left (List.mem_range.1 hposition)
      rw [List.length_append, List.length_singleton, List.range_succ, rulesAt_append, hsame, ih]
      simp [rulesAt]

variable [OpeningRule ρ]

/-- The positions of a selection with rules that are not empty. -/
def filledAt (rules : List ρ) (selection : List Nat) : List Nat :=
  selection.filter (fun position => rules[position]?.any (fun rule => !OpeningRule.isEmpty rule))

theorem rulesAt_filledAt (rules : List ρ) (selection : List Nat) :
    rulesAt rules (filledAt rules selection) = filled (rulesAt rules selection) := by
  rw [rulesAt, rulesAt, filled, filledAt, List.filterMap_filter, List.filter_filterMap]
  congr 1
  funext position
  cases rules[position]? with
  | none => rfl
  | some rule => cases hempty : OpeningRule.isEmpty rule <;> simp [hempty, Option.filter_some]

/-- The positions of a group's members select the rules of the group. -/
theorem rulesAt_positions {rules : List ρ} {group : Group ρ}
    (hgroup : group ∈ (groupRules rules).value) :
    rulesAt rules group.positions = group.rules := by
  rw [value_groupRules] at hgroup
  rw [rulesAt, Group.positions, Group.rules, List.filterMap_map, ← List.filterMap_eq_map]
  apply List.filterMap_congr
  intro member hmember
  exact rule_of_mem_groupsOf hgroup hmember

/-- The groups hold all rules. -/
theorem flatMap_rules_perm (rules : List ρ) :
    ((groupRules rules).value.flatMap Group.rules).Perm rules := by
  have hcovers :=
    (isGrouping_groupPositions rules).covers.filterMap (fun position => rules[position]?)
  have hflat : (groupRules rules).value.flatMap Group.rules =
      rulesAt rules (groupPositions rules).flatten := by
    rw [rulesAt_flatten, groupPositions, List.flatMap_map]
    exact List.flatMap_congr fun group hgroup => (rulesAt_positions hgroup).symm
  rw [hflat]
  exact hcovers.trans (List.Perm.of_eq (rulesAt_range rules))

theorem flatMap_filledAt_perm (rules : List ρ) :
    ((groupRules rules).value.flatMap fun group => filledAt rules group.positions).Perm
      (filledAt rules (List.range rules.length)) := by
  have hcovers := (isGrouping_groupPositions rules).covers
  rw [groupPositions, ← List.flatMap_def] at hcovers
  have hfiltered := hcovers.filter
    (fun position => rules[position]?.any (fun rule => !OpeningRule.isEmpty rule))
  rw [List.filter_flatMap] at hfiltered
  exact hfiltered

end Selections

/-- All rules of a group have the kind of its founder. -/
theorem kind_eq_of_mem {rules : List Rule} {group : Group Rule}
    (hgroup : group ∈ (groupRules rules).value) {rule : Rule} (hrule : rule ∈ group.rules) :
    rule.kind = group.founder.rule.kind := by
  obtain ⟨member, hmember, rfl⟩ := List.mem_map.1 hrule
  rcases List.mem_cons.1 hmember with rfl | hfollower
  · rfl
  · rw [value_groupRules] at hgroup
    have haccepts := (Settled.groupsOf (membersOf rules)).joined group hgroup member hfollower
    have hsame := (mergesBy_cleared member.rule group.founder.rule).1 haccepts
    have hkinds : member.rule.cleared.kind = group.founder.rule.cleared.kind :=
      congrArg Rule.kind hsame
    exact hkinds

end Grouping

open Grouping

/-- The line of a group: the texts of its rules that are not empty, all joined in the way of the
founder. -/
theorem value_renderRules_of_mem (style : Style) {rules : List Rule} {group : Group Rule}
    (hgroup : group ∈ (groupRules rules).value) :
    (renderRules style group.rules).value =
      String.intercalate group.founder.rule.kind.separator
        ((filled group.rules).map style.write) := by
  rw [value_renderRules]
  apply joinedText_eq_intercalate
  intro rule hrule
  exact kind_eq_of_mem hgroup (mem_of_mem_filled hrule)

theorem Rule.commentBreaks_of_isEmpty {rule : Rule} (hempty : rule.isEmpty = true) :
    rule.commentBreaks = 0 := by
  have hcomment : rule.comment = none := by
    simp only [Rule.isEmpty, Bool.and_eq_true, Option.isNone_iff_eq_none] at hempty
    tauto
  rw [Rule.commentBreaks, hcomment]
  rfl

/-- Leaving empty rules out leaves out no line break. -/
theorem sum_commentBreaks_filled (rules : List Rule) :
    ((filled rules).map Rule.commentBreaks).sum = (rules.map Rule.commentBreaks).sum := by
  induction rules with
  | nil => rfl
  | cons rule rules ih =>
      cases hempty : rule.isEmpty with
      | true =>
          rw [filled_cons_of_isEmpty hempty, ih, List.map_cons, List.sum_cons,
            Rule.commentBreaks_of_isEmpty hempty, Nat.zero_add]
      | false => rw [filled_cons_of_not_isEmpty hempty, List.map_cons, List.sum_cons, ih,
          List.map_cons, List.sum_cons]

theorem lineBreaks_renderRules (style : Style) {rules : List Rule} {group : Group Rule}
    (hgroup : group ∈ (groupRules rules).value) :
    lineBreaks (renderRules style group.rules).value =
      (group.rules.map Rule.commentBreaks).sum := by
  have hseparator : lineBreaks group.founder.rule.kind.separator = 0 :=
    CombinationKind.unbroken_separator group.founder.rule.kind
  have hwrite : lineBreaks ∘ style.write = Rule.commentBreaks := funext style.lineBreaks_write
  rw [value_renderRules_of_mem style hgroup, lineBreaks_intercalate, hseparator, Nat.mul_zero,
    Nat.zero_add, List.map_map, hwrite, sum_commentBreaks_filled]

namespace Command

theorem value_groupsText (style : Style) (rules : List Rule) :
    (groupsText false style rules).value =
      String.intercalate "\n"
        ((groupRules rules).value.map fun group => (renderRules style group.rules).value) := by
  have hlines : ∀ groups : List (Group Rule), (groupLines style groups).value =
      String.intercalate "\n" (groups.map fun group => (renderRules style group.rules).value) := by
    intro groups
    rw [groupLines, Logged.value_bind, Logged.value_mapM]
    rfl
  exact hlines (groupRules rules).value

theorem lineBreaks_groupsText (style : Style) (rules : List Rule) :
    lineBreaks (groupsText false style rules).value =
      ((groupRules rules).value.length - 1) + (rules.map Rule.commentBreaks).sum := by
  have hbreak : lineBreaks "\n" = 1 := by decide
  have hlines : (groupRules rules).value.map
        (fun group => lineBreaks (renderRules style group.rules).value) =
      (groupRules rules).value.map (fun group => (group.rules.map Rule.commentBreaks).sum) :=
    List.map_congr_left fun group hgroup => lineBreaks_renderRules style hgroup
  have hall := ((flatMap_rules_perm rules).map Rule.commentBreaks).sum_eq
  rw [List.map_flatMap, List.flatMap_def, List.sum_flatten, List.map_map] at hall
  rw [value_groupsText, lineBreaks_intercalate, hbreak, List.length_map, Nat.mul_one,
    List.map_map, ← hall]
  exact congrArg (fun breaks => _ + List.sum breaks) hlines

/-- Groups are printed as their lines, with line breaks between them.  A line has the texts of the
rules of its group that are not empty, in the order in which they were given and behind the
separators of the founder's kind, and every rule that is not empty is on one line.  Only comments
bring in further line breaks, so without these the text is cut into its lines at line breaks. -/
theorem groupsText_lines (style : Style) (rules : List Rule) :
    let groups := (groupRules rules).value
    let line := fun group : Group Rule => (renderRules style group.rules).value
    let text := (groupsText false style rules).value
    text = String.intercalate "\n" (groups.map line) ∧
    (∀ group ∈ groups, group.positions.Pairwise (· < ·) ∧
      line group = String.intercalate group.founder.rule.kind.separator
        ((rulesAt rules (filledAt rules group.positions)).map style.write)) ∧
    (groups.flatMap fun group => filledAt rules group.positions).Perm
      (filledAt rules (List.range rules.length)) ∧
    lineBreaks text = (groups.length - 1) + (rules.map Rule.commentBreaks).sum ∧
    (rules ≠ [] → (∀ rule ∈ rules, ∀ comment ∈ rule.comment, '\n' ∉ comment.toList) →
      (text.split '\n').toList.map (·.copy) = groups.map line) := by
  intro groups line text
  refine ⟨value_groupsText style rules, ?_, flatMap_filledAt_perm rules,
    lineBreaks_groupsText style rules, ?_⟩
  · intro group hgroup
    refine ⟨(isGrouping_groupPositions rules).increasing _ (List.mem_map_of_mem hgroup), ?_⟩
    rw [rulesAt_filledAt, rulesAt_positions hgroup]
    exact value_renderRules_of_mem style hgroup
  · intro hne hcomments
    have hunbroken : ∀ written ∈ groups.map line, '\n' ∉ written.toList := by
      intro written hwritten
      obtain ⟨group, hgroup, rfl⟩ := List.mem_map.1 hwritten
      apply List.count_eq_zero.1
      change lineBreaks (line group) = 0
      rw [lineBreaks_renderRules style hgroup]
      apply List.sum_eq_zero
      intro breaks hbreaks
      obtain ⟨rule, hrule, rfl⟩ := List.mem_map.1 hbreaks
      have hmem : rule ∈ rules :=
        (flatMap_rules_perm rules).mem_iff.1 (List.mem_flatMap.2 ⟨group, hgroup, hrule⟩)
      rw [Rule.commentBreaks]
      cases hcomment : rule.comment with
      | none => rfl
      | some comment => exact List.count_eq_zero.2 (hcomments rule hmem comment hcomment)
    have hgroups : groups.map line ≠ [] := by
      intro hnil
      have hnone : groups = [] := List.map_eq_nil_iff.1 hnil
      have hperm := flatMap_rules_perm rules
      rw [show (groupRules rules).value = [] from hnone] at hperm
      exact hne hperm.symm.eq_nil
    have hsplit := String.toList_split_intercalate hunbroken
    rw [if_neg hgroups] at hsplit
    rw [← hsplit, show text = _ from value_groupsText style rules]
    rfl

end Command

end OpeningTimes

import OpeningTimes.Joining

/-!
Joined texts.  Joining is a run over all rules that counts what it has written; here its result is
given outright by the rules that are not empty.
-/

namespace OpeningTimes

namespace Joining

variable {ρ : Type} [OpeningRule ρ]

def filled (rules : List ρ) : List ρ :=
  rules.filter (fun rule => !OpeningRule.isEmpty rule)

/-- The rules after the first, each behind the separator of its own kind. -/
def followers (write : ρ → String) (rules : List ρ) : String :=
  String.join (rules.map (fun rule => (OpeningRule.kind rule).separator ++ write rule))

/-- The first rule and its followers. -/
def joinedText (write : ρ → String) : List ρ → String
  | [] => ""
  | rule :: rest => write rule ++ followers write rest

theorem followers_cons (write : ρ → String) (rule : ρ) (rest : List ρ) :
    followers write (rule :: rest)
      = (OpeningRule.kind rule).separator ++ write rule ++ followers write rest := by
  simp [followers, String.append_assoc]

theorem filled_cons_of_isEmpty {rule : ρ} (hempty : OpeningRule.isEmpty rule = true)
    (rules : List ρ) : filled (rule :: rules) = filled rules := by
  simp [filled, hempty]

theorem filled_cons_of_not_isEmpty {rule : ρ} (hfilled : OpeningRule.isEmpty rule = false)
    (rules : List ρ) : filled (rule :: rules) = rule :: filled rules := by
  simp [filled, hfilled]

theorem not_isEmpty_of_mem_filled {rule : ρ} {rules : List ρ} (hmem : rule ∈ filled rules) :
    OpeningRule.isEmpty rule = false := by
  simpa using (List.mem_filter.1 hmem).2

theorem mem_of_mem_filled {rule : ρ} {rules : List ρ} (hmem : rule ∈ filled rules) :
    rule ∈ rules :=
  (List.mem_filter.1 hmem).1

/-- Once a rule has been written, the others follow it. -/
theorem text_foldl_add (write : ρ → String) (rules : List ρ) {joined : Joined}
    (hcount : joined.count ≠ 0) :
    (rules.foldl (add write) joined).text = joined.text ++ followers write (filled rules) := by
  induction rules generalizing joined with
  | nil => simp [filled, followers]
  | cons rule rules ih =>
      cases hempty : OpeningRule.isEmpty rule with
      | true =>
          rw [List.foldl_cons, add_of_isEmpty write joined hempty, ih hcount,
            filled_cons_of_isEmpty hempty]
      | false =>
          have hnext := count_add_of_not_isEmpty write joined hempty
          rw [List.foldl_cons, ih (by omega), filled_cons_of_not_isEmpty hempty, followers_cons]
          simp [add, hempty, hcount, String.append_assoc]

theorem text_foldl_add_empty (write : ρ → String) (rules : List ρ) :
    (rules.foldl (add write) {}).text = joinedText write (filled rules) := by
  induction rules with
  | nil => rfl
  | cons rule rules ih =>
      cases hempty : OpeningRule.isEmpty rule with
      | true =>
          rw [List.foldl_cons, add_of_isEmpty write {} hempty, ih, filled_cons_of_isEmpty hempty]
      | false =>
          have hnext := count_add_of_not_isEmpty write {} hempty
          rw [List.foldl_cons, text_foldl_add write rules (by omega),
            filled_cons_of_not_isEmpty hempty, joinedText]
          simp [add, hempty]

theorem value_joinRules (write : ρ → String) (rules : List ρ) :
    (joinRules write rules).value = joinedText write (filled rules) := by
  rw [← text_foldl_add_empty]
  rfl

theorem filled_append (rules others : List ρ) :
    filled (rules ++ others) = filled rules ++ filled others :=
  List.filter_append rules others

theorem followers_append (write : ρ → String) (rules others : List ρ) :
    followers write (rules ++ others) = followers write rules ++ followers write others := by
  simp [followers]

/-- Of two joined lists the second starts with a separator, which is that of its first rule. -/
theorem joinedText_append_cons (write : ρ → String) (rule : ρ) (rules : List ρ) (next : ρ)
    (others : List ρ) :
    joinedText write (rule :: rules ++ next :: others)
      = joinedText write (rule :: rules) ++ (OpeningRule.kind next).separator
          ++ joinedText write (next :: others) := by
  rw [List.cons_append, joinedText, followers_append, followers_cons, joinedText, joinedText]
  simp only [String.append_assoc]

/-- The counter follows the rules that are not empty, whatever has been written for them. -/
theorem count_foldl_add (write : ρ → String) (rules : List ρ) (joined : Joined) :
    (rules.foldl (add write) joined).count = joined.count + (filled rules).length := by
  induction rules generalizing joined with
  | nil => rfl
  | cons rule rules ih =>
      cases hempty : OpeningRule.isEmpty rule with
      | true =>
          rw [List.foldl_cons, add_of_isEmpty write joined hempty, ih,
            filled_cons_of_isEmpty hempty]
      | false =>
          rw [List.foldl_cons, ih, count_add_of_not_isEmpty write joined hempty,
            filled_cons_of_not_isEmpty hempty, List.length_cons]
          omega

theorem records_joinRules (write : ρ → String) (rules : List ρ) :
    (joinRules write rules).records =
      [⟨.debug, target, "rendered " ++ toString (filled rules).length ++ " non-empty rules"⟩] := by
  have hcount := count_foldl_add write rules {}
  simp only [Nat.zero_add] at hcount
  rw [← hcount]
  rfl

/-- Joining writes the first rule that is not empty and the others behind their separators, even
where a rule has no text, and records how many they are.  A list in two parts is joined by joining
its parts, with the separator of the second part's first rule between them if both have a rule to
write.  The two styles are joined in this way. -/
theorem joinRules_eq_and_append (write : ρ → String) :
    (∀ rules : List ρ, joinRules write rules =
      ⟨joinedText write (filled rules),
        [⟨.debug, target,
          "rendered " ++ toString (filled rules).length ++ " non-empty rules"⟩]⟩) ∧
    (∀ rules others : List ρ, (joinRules write (rules ++ others)).value =
      match filled rules, filled others with
      | [], _ => (joinRules write others).value
      | _ :: _, [] => (joinRules write rules).value
      | _ :: _, next :: _ =>
          (joinRules write rules).value ++ (OpeningRule.kind next).separator
            ++ (joinRules write others).value) ∧
    ∀ rules : List ρ, renderRules .canonical rules = joinRules OpeningRule.text rules ∧
      renderRules .labelled rules = joinRules OpeningRule.labelledText rules := by
  refine ⟨fun rules => ?_, fun rules others => ?_, fun rules => ⟨rfl, rfl⟩⟩
  · rw [← value_joinRules write rules, ← records_joinRules write rules]
  · rw [value_joinRules, value_joinRules, value_joinRules, filled_append]
    cases hrules : filled rules with
    | nil => rfl
    | cons rule rest =>
        cases hothers : filled others with
        | nil => rw [List.append_nil]
        | cons next more => exact joinedText_append_cons write rule rest next more

end Joining

end OpeningTimes

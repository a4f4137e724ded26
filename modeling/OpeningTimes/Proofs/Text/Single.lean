import OpeningTimes.Proofs.Text.Renderings

/-!
Texts of single rules.  The comment is the last part of a rule, so where no other rule follows it
may contain anything: whatever stands between its first and the last quote belongs to it.
-/

namespace OpeningTimes

open Text

namespace Rule

def labelledParts (rule : Rule) : List Char :=
  (kindText rule.kind).toList ++ Frame.labelled.text rule.parts

theorem labelledParts_eq (rule : Rule) :
    rule.labelledParts
      = (kindText rule.kind ++ Frame.labelled.front rule).toList
        ++ (Frame.labelled.option .comment commentText rule.comment).toList := by
  rw [labelledParts, Frame.text_parts, String.toList_append, List.append_assoc]

/-- A text that ends after the comment shows the comment, whatever is in it. -/
theorem comment_eq_of_framed (frame : Frame) {comment other : Option String}
    (hopening : frame.opening .comment ≠ "")
    (h : (frame.option .comment commentText comment).toList
      = (frame.option .comment commentText other).toList) : comment = other := by
  have hframed : ∀ comment : String,
      (frame.option .comment commentText (some comment)).toList ≠ [] := by
    intro comment hnil
    rw [Frame.option, optionalText, String.toList_append, List.append_eq_nil_iff] at hnil
    exact hopening (String.toList_inj.1 hnil.1)
  cases comment with
  | none =>
      cases other with
      | none => rfl
      | some other => exact absurd h.symm (hframed other)
  | some comment =>
      cases other with
      | none => exact absurd h (hframed comment)
      | some other =>
          simp only [Frame.option, optionalText, commentText, String.toList_append] at h
          have hquoted := List.append_cancel_right (List.append_cancel_left h)
          have hcomment := List.append_cancel_left (List.append_cancel_right hquoted)
          rw [String.toList_inj.1 hcomment]

theorem labelledParts_injective : Function.Injective labelledParts := by
  intro rule other h
  have hplace := fun comment : Option String =>
    place_comment (fun _ _ => labelledPlace_opening .comment _) comment
      (lt_labelledPlace_of_endsRule (Or.inl rfl))
  simp only [List.append_nil] at hplace
  rw [labelledParts_eq, labelledParts_eq] at h
  obtain ⟨htold, hcomment⟩ :=
    fills_labelled_front.reads rule other _ _ (hplace rule.comment) (hplace other.comment) h
  have hsame := comment_eq_of_framed Frame.labelled (by decide) hcomment
  exact eq_of_labelledTold (by rw [htold, hsame])

/-- Only an empty rule of the normal kind has nothing to show. -/
theorem labelledText_cases (rule : Rule) :
    (rule = {} ∧ rule.labelledText = "") ∨
      ' ' :: rule.labelledText.toList = rule.labelledParts := by
  by_cases hne : kindTag rule.kind ++ rule.parts.map labelled = []
  · left
    obtain ⟨htag, hparts⟩ := List.append_eq_nil_iff.1 hne
    have hkind : rule.kind = .normal := by
      cases hkind : rule.kind <;> simp_all [kindTag]
    have hempty := (isEmpty_iff rule).1 ((parts_eq_nil_iff rule).1 (List.map_eq_nil_iff.1 hparts))
    rw [hkind] at hempty
    refine ⟨hempty, ?_⟩
    rw [labelledText, hne]
    rfl
  · exact Or.inr (toList_labelledText_of_ne hne)

/-- A single blank is no list of labelled parts. -/
theorem labelledParts_ne_blank (rule : Rule) : rule.labelledParts ≠ [' '] := by
  intro h
  have hlength := congrArg List.length h
  rw [labelledParts, List.length_append] at hlength
  cases hparts : rule.parts with
  | nil =>
      rw [hparts] at hlength
      cases hkind : rule.kind <;>
        simp [hkind, kindText, tagged, optionalText, CombinationKind.name, Frame.text] at hlength
  | cons part rest =>
      rw [hparts] at hlength
      simp [Frame.text, Frame.labelled] at hlength
      omega

/-- The labelled text of a rule determines the rule, whatever its comment contains. -/
theorem labelledText_inj (rule other : Rule) :
    rule.labelledText = other.labelledText ↔ rule = other := by
  constructor
  · intro h
    rcases labelledText_cases rule with ⟨hrule, hnone⟩ | hrule
    · rcases labelledText_cases other with ⟨hother, -⟩ | hother
      · rw [hrule, hother]
      · rw [← h, hnone] at hother
        exact absurd hother.symm other.labelledParts_ne_blank
    · rcases labelledText_cases other with ⟨-, hnone⟩ | hother
      · rw [h, hnone] at hrule
        exact absurd hrule.symm rule.labelledParts_ne_blank
      · rw [h, hother] at hrule
        exact (labelledParts_injective hrule).symm
  · exact congrArg labelledText

/-- The parts of a rule, each behind what joins it to the part before. -/
def plainParts (rule : Rule) : List Char :=
  (Frame.plain rule.joins).text rule.parts

theorem plainParts_eq (rule : Rule) :
    rule.plainParts
      = ((Frame.plain rule.joins).front rule).toList
        ++ ((Frame.plain false).option .comment commentText rule.comment).toList := by
  rw [plainParts, Frame.text_parts]
  rfl

/-- The text of a rule shows its parts: a rule without text has none. -/
theorem plainParts_eq_of_text_eq {rule other : Rule} (h : rule.text = other.text) :
    rule.plainParts = other.plainParts := by
  have hnone : ∀ rule : Rule, rule.isEmpty = true → rule.plainParts = [] := by
    intro rule hempty
    rw [plainParts, (parts_eq_nil_iff rule).2 hempty]
    rfl
  have hsome : ∀ rule : Rule, ¬ rule.isEmpty = true →
      rule.plainParts = ' ' :: rule.text.toList := by
    intro rule hfilled
    exact (toList_text (parts_ne_nil (eq_false_of_ne_true hfilled))).symm
  have hempty : rule.isEmpty = true ↔ other.isEmpty = true := by
    rw [← text_eq_empty_iff, ← text_eq_empty_iff, h]
  by_cases hrule : rule.isEmpty = true
  · rw [hnone rule hrule, hnone other (hempty.1 hrule)]
  · rw [hsome rule hrule, hsome other (fun hother => hrule (hempty.2 hother)), h]

theorem sharesText_of_text_eq {rule other : Rule} (h : rule.text = other.text) :
    rule.SharesText other := by
  have hplace := fun comment : Option String =>
    place_comment (plainPlace_comment false) comment (lt_plainPlace_of_endsRule (Or.inl rfl))
  simp only [List.append_nil] at hplace
  have hparts := plainParts_eq_of_text_eq h
  rw [plainParts_eq, plainParts_eq] at hparts
  obtain ⟨htold, hcomment⟩ :=
    fills_plain_front.reads rule other _ _ (hplace rule.comment) (hplace other.comment) hparts
  have hsame := comment_eq_of_framed (Frame.plain false) (by decide) hcomment
  rw [sharesText_iff, htold, hsame]

theorem SharesText.eq_update {rule other : Rule} (hshares : rule.SharesText other)
    (hkind : rule.kind = other.kind) :
    other = { rule with always := other.always, years := other.years } := by
  rw [hkind, hshares.dates, hshares.weeks, hshares.holidays, hshares.days, hshares.times,
    hshares.modifier, hshares.comment]

theorem AlwaysByYears.ne {rule other : Rule} (hclash : rule.AlwaysByYears other) :
    rule ≠ other := by
  rintro rfl
  obtain ⟨halways, -, hnever, -⟩ := hclash
  rw [halways] at hnever
  exact absurd hnever (by decide)

/-- Two rules have one text exactly when they agree on everything but their kinds, except that one
may be open always by saying so and the other by the years it names.  So among rules of one kind
this is the only way to share a text. -/
theorem text_eq_iff (rule other : Rule) :
    (rule.text = other.text ↔ rule.SharesText other) ∧
      (rule.kind = other.kind ∧ rule ≠ other ∧ rule.text = other.text ↔
        other = { rule with always := other.always, years := other.years } ∧
          (rule.AlwaysByYears other ∨ other.AlwaysByYears rule)) := by
  have hshares : rule.text = other.text ↔ rule.SharesText other :=
    ⟨sharesText_of_text_eq, SharesText.text_eq⟩
  refine ⟨hshares, ?_⟩
  rw [hshares]
  constructor
  · rintro ⟨hkind, hne, h⟩
    have hupdate := h.eq_update hkind
    refine ⟨hupdate, ?_⟩
    rcases h.head with ⟨halways, hyears⟩ | hclash
    · rw [← halways, ← hyears] at hupdate
      exact absurd hupdate.symm hne
    · exact hclash
  · rintro ⟨hupdate, hclash⟩
    have hne : rule ≠ other := by
      rcases hclash with hclash | hclash
      · exact hclash.ne
      · exact hclash.ne.symm
    rw [hupdate]
    exact ⟨rfl, hupdate ▸ hne, Or.inr hclash, rfl, rfl, rfl, rfl, rfl, rfl, rfl⟩

end Rule

end OpeningTimes

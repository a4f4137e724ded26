import Mathlib.Data.List.Forall2
import OpeningTimes.Proofs.Joining
import OpeningTimes.Proofs.Text.Edges
import OpeningTimes.Proofs.Text.Grammar
import OpeningTimes.Proofs.Text.Labelled

/-!
Renderings of rules.  As long as comments contain no quotes, a rendering determines the rules that
are not empty, except that the text of the grammar does not show the kind of the first rule and
has one text for two ways to be always open.
-/

namespace OpeningTimes

open Text

/-- The comment of the rule, if there is one, contains no quotes. -/
def Rule.Unquoted (rule : Rule) : Prop :=
  ∀ comment ∈ rule.comment, '"' ∉ comment.toList

instance : DecidablePred Rule.Unquoted :=
  fun rule => inferInstanceAs (Decidable (∀ comment ∈ rule.comment, '"' ∉ comment.toList))

abbrev QuoteFree : Type :=
  { comment : String // '"' ∉ comment.toList }

/-- The closing quotes end a comment that has none inside. -/
theorem legible_commentText (stop : List Char → Prop) :
    Legible (fun comment : QuoteFree => Rule.commentText comment.1) stop := by
  have hinside : ∀ comment : QuoteFree, ∀ c ∈ comment.1.toList, (c != '"') = true := by
    intro comment c hc
    rw [bne_iff_ne]
    rintro rfl
    exact comment.2 hc
  have hcomment : Legible (fun comment : QuoteFree => comment.1) (Begins ['"']) :=
    legible_of_inside hinside Subtype.val_injective (by decide)
  exact (hcomment.lead "\"").tail "\"" (fun s _ => begins_cons (c := '"') (by decide) s)

theorem Rule.Unquoted.exists_comment {rule : Rule} (hrule : rule.Unquoted) :
    ∃ comment : Option QuoteFree, comment.map Subtype.val = rule.comment := by
  cases hcomment : rule.comment with
  | none => exact ⟨none, rfl⟩
  | some comment => exact ⟨some ⟨comment, hrule comment hcomment⟩, rfl⟩

section Comment

variable {τ : Type} {place : List Char → Nat} {frame : Frame}

theorem place_comment
    (hplace : ∀ comment s, place ((frame.opening .comment).toList
      ++ ((Rule.commentText comment).toList ++ s)) = Label.comment.place)
    (comment : Option String) {s : List Char} (hs : Label.comment.place < place s) :
    Label.modifier.place
      < place ((frame.option .comment Rule.commentText comment).toList ++ s) := by
  cases comment with
  | none => exact Nat.lt_trans (by decide) hs
  | some comment =>
      rw [Frame.option, optionalText, String.toList_append, String.toList_append,
        List.append_assoc, List.append_assoc, hplace]
      decide

/-- Comments without quotes are read off what is framed last. -/
theorem comment_reads
    (hplace : ∀ comment s, place ((frame.opening .comment).toList
      ++ ((Rule.commentText comment).toList ++ s)) = Label.comment.place)
    {rule other : Rule} (hrule : rule.Unquoted) (hother : other.Unquoted) {s t : List Char}
    (hs : Label.comment.place < place s) (ht : Label.comment.place < place t)
    (h : (frame.option .comment Rule.commentText rule.comment).toList ++ s
      = (frame.option .comment Rule.commentText other.comment).toList ++ t) :
    rule.comment = other.comment ∧ s = t := by
  have hfills : Fills place Label.comment.place Label.comment.place
      (frame.option .comment (fun comment : QuoteFree => Rule.commentText comment.1)) id := by
    refine fills_optionalText (((legible_commentText (fun _ => True)).tail _
      (fun _ _ => trivial)).lead _) ?_
    intro comment s
    rw [String.toList_append, String.toList_append, List.append_assoc, List.append_assoc, hplace]
  have hmap : ∀ comment : Option QuoteFree,
      frame.option .comment Rule.commentText (comment.map Subtype.val)
        = frame.option .comment (fun comment : QuoteFree => Rule.commentText comment.1)
          comment := by
    intro comment
    cases comment <;> rfl
  obtain ⟨comment, hcomment⟩ := hrule.exists_comment
  obtain ⟨remark, hremark⟩ := hother.exists_comment
  rw [← hcomment, ← hremark] at h ⊢
  rw [hmap, hmap] at h
  obtain ⟨hequal, hst⟩ := hfills.reads comment remark s t hs ht h
  exact ⟨congrArg (Option.map Subtype.val) hequal, hst⟩

/-- A whole rule is read off what comes before the comment and then off the comment. -/
theorem rule_reads {front : Rule → String} {told : Rule → τ} {first : Nat}
    (hfront : Fills place first Label.modifier.place front told)
    (hplace : ∀ comment s, place ((frame.opening .comment).toList
      ++ ((Rule.commentText comment).toList ++ s)) = Label.comment.place)
    {rule other : Rule} (hrule : rule.Unquoted) (hother : other.Unquoted) {s t : List Char}
    (hs : Label.comment.place < place s) (ht : Label.comment.place < place t)
    (h : (front rule).toList ++ ((frame.option .comment Rule.commentText rule.comment).toList ++ s)
      = (front other).toList
        ++ ((frame.option .comment Rule.commentText other.comment).toList ++ t)) :
    (told rule, rule.comment) = (told other, other.comment) ∧ s = t := by
  obtain ⟨htold, hrest⟩ := hfront.reads rule other _ _ (place_comment hplace rule.comment hs)
    (place_comment hplace other.comment ht) h
  obtain ⟨hcomment, hst⟩ := comment_reads hplace hrule hother hs ht hrest
  exact ⟨by rw [htold, hcomment], hst⟩

end Comment

theorem lt_plainPlace_of_endsRule {s : List Char} (hs : EndsRule s) :
    Label.comment.place < plainPlace s := by
  rw [plainPlace_of_endsRule hs]
  decide

theorem plainPlace_comment (joins : Bool) (comment : String) (s : List Char) :
    plainPlace (((Frame.plain joins).opening .comment).toList
      ++ ((Rule.commentText comment).toList ++ s)) = Label.comment.place := by
  rw [toList_opening_plain joins (by decide), Rule.commentText, String.toList_append,
    String.toList_append]
  rfl

theorem lt_labelledPlace_of_endsRule {s : List Char} (hs : EndsRule s) :
    Label.comment.place < labelledPlace s := by
  rw [labelledPlace_of_endsRule hs]
  decide

/-- What is known of the rules whose texts are read. -/
structure Rule.Readable (rule : Rule) : Prop where
  filled : rule.isEmpty = false
  unquoted : rule.Unquoted

namespace Rule.Readable

variable {rule other : Rule}

/-- The comment is framed alike whether or not the days are joined to holidays. -/
theorem toList_text_append (hrule : rule.Readable) (s : List Char) :
    ' ' :: (rule.text.toList ++ s)
      = ((Frame.plain rule.joins).front rule).toList
        ++ (((Frame.plain false).option .comment Rule.commentText rule.comment).toList ++ s) := by
  rw [← List.cons_append, Rule.toList_text (Rule.parts_ne_nil hrule.filled), Frame.text_parts,
    List.append_assoc]
  rfl

theorem toList_labelledText_append (hrule : rule.Readable) (s : List Char) :
    ' ' :: (rule.labelledText.toList ++ s)
      = (Rule.kindText rule.kind ++ Frame.labelled.front rule).toList
        ++ ((Frame.labelled.option .comment Rule.commentText rule.comment).toList ++ s) := by
  rw [← List.cons_append, Rule.toList_labelledText (Rule.parts_ne_nil hrule.filled),
    Frame.text_parts]
  simp only [String.toList_append, List.append_assoc]

theorem text_reads (hrule : rule.Readable) (hother : other.Readable) {s t : List Char}
    (hs : EndsRule s) (ht : EndsRule t) (h : rule.text.toList ++ s = other.text.toList ++ t) :
    (rule.plainTold, rule.comment) = (other.plainTold, other.comment) ∧ s = t := by
  have hwhole := congrArg (List.cons ' ') h
  rw [hrule.toList_text_append, hother.toList_text_append] at hwhole
  exact rule_reads fills_plain_front (plainPlace_comment false) hrule.unquoted hother.unquoted
    (lt_plainPlace_of_endsRule hs) (lt_plainPlace_of_endsRule ht) hwhole

theorem labelledText_reads (hrule : rule.Readable) (hother : other.Readable) {s t : List Char}
    (hs : EndsRule s) (ht : EndsRule t)
    (h : rule.labelledText.toList ++ s = other.labelledText.toList ++ t) :
    (rule.labelledTold, rule.comment) = (other.labelledTold, other.comment) ∧ s = t := by
  have hwhole := congrArg (List.cons ' ') h
  rw [hrule.toList_labelledText_append, hother.toList_labelledText_append] at hwhole
  exact rule_reads fills_labelled_front (fun _ _ => labelledPlace_opening .comment _)
    hrule.unquoted hother.unquoted (lt_labelledPlace_of_endsRule hs)
    (lt_labelledPlace_of_endsRule ht) hwhole

end Rule.Readable

theorem CombinationKind.legible_separator (stop : List Char → Prop) :
    Legible CombinationKind.separator stop := by
  intro kind other s t _ _ h
  cases kind <;> cases other <;> simp_all [CombinationKind.separator]

/-- A way to write rules, none of them as an empty text, such that something can be told about a
rule from its text and the end of the rule is seen. -/
structure ReadsRules {τ : Type} (write : Rule → String) (told : Rule → τ) : Prop where
  reads : ∀ rule other : Rule, rule.Readable → other.Readable → ∀ s t, EndsRule s → EndsRule t →
    (write rule).toList ++ s = (write other).toList ++ t → told rule = told other ∧ s = t
  ne_nil : ∀ rule : Rule, rule.Readable → (write rule).toList ≠ []

theorem readsRules_text : ReadsRules Rule.text (fun rule => (rule.plainTold, rule.comment)) where
  reads := fun _ _ hrule hother _ _ hs ht h => hrule.text_reads hother hs ht h
  ne_nil := fun _ hrule => (Rule.solid_text hrule.filled).toList_ne_nil

theorem readsRules_labelledText :
    ReadsRules Rule.labelledText (fun rule => (rule.labelledTold, rule.comment)) where
  reads := fun _ _ hrule hother _ _ hs ht h => hrule.labelledText_reads hother hs ht h
  ne_nil := fun _ hrule => (Rule.solid_labelledText hrule.filled).toList_ne_nil

section Lists

open Joining

variable {τ : Type} {write : Rule → String} {told : Rule → τ} {rules others : List Rule}

theorem toList_followers_cons (write : Rule → String) (rule : Rule) (rules : List Rule) :
    (followers write (rule :: rules)).toList
      = rule.kind.separator.toList ++ ((write rule).toList ++ (followers write rules).toList) := by
  rw [followers_cons, String.toList_append, String.toList_append, List.append_assoc]
  rfl

theorem toList_joinedText_cons (write : Rule → String) (rule : Rule) (rules : List Rule) :
    (joinedText write (rule :: rules)).toList
      = (write rule).toList ++ (followers write rules).toList := by
  rw [joinedText, String.toList_append]

theorem endsRule_followers (write : Rule → String) (rules : List Rule) :
    EndsRule (followers write rules).toList := by
  cases rules with
  | nil => exact Or.inl (by simp [followers])
  | cons rule rules => exact Or.inr ⟨rule.kind, _, toList_followers_cons write rule rules⟩

/-- Each separator ends the rule before it and tells the kind of the rule after it. -/
theorem ReadsRules.followers (hwrite : ReadsRules write told)
    (hrules : ∀ rule ∈ rules, rule.Readable) (hothers : ∀ rule ∈ others, rule.Readable)
    (h : (followers write rules).toList = (followers write others).toList) :
    List.Forall₂ (fun rule other => told rule = told other) rules others
      ∧ rules.map Rule.kind = others.map Rule.kind := by
  have hseparator : ∀ kind : CombinationKind, kind.separator.toList ≠ [] := by
    intro kind
    cases kind <;> decide
  -- By induction on the rules on the left: what is left after one rule is again followers.
  induction rules generalizing others with
  | nil =>
      cases others with
      | nil => exact ⟨List.Forall₂.nil, rfl⟩
      | cons other others =>
          rw [toList_followers_cons] at h
          exact absurd (List.append_eq_nil_iff.1 h.symm).1 (hseparator other.kind)
  | cons rule rules ih =>
      obtain ⟨hrule, hrules⟩ := List.forall_mem_cons.1 hrules
      cases others with
      | nil =>
          rw [toList_followers_cons] at h
          exact absurd (List.append_eq_nil_iff.1 h).1 (hseparator rule.kind)
      | cons other others =>
          obtain ⟨hother, hothers⟩ := List.forall_mem_cons.1 hothers
          rw [toList_followers_cons, toList_followers_cons] at h
          obtain ⟨hkind, hrest⟩ :=
            CombinationKind.legible_separator (fun _ => True) _ _ _ _ trivial trivial h
          obtain ⟨htold, hfollowers⟩ := hwrite.reads rule other hrule hother _ _
            (endsRule_followers write rules) (endsRule_followers write others) hrest
          obtain ⟨htolds, hkinds⟩ := ih hrules hothers hfollowers
          exact ⟨List.Forall₂.cons htold htolds, congrArg₂ List.cons hkind hkinds⟩

/-- The text of the first rule does not show its kind, those of the others do. -/
theorem ReadsRules.joinedText (hwrite : ReadsRules write told)
    (hrules : ∀ rule ∈ rules, rule.Readable) (hothers : ∀ rule ∈ others, rule.Readable)
    (h : joinedText write rules = joinedText write others) :
    List.Forall₂ (fun rule other => told rule = told other) rules others
      ∧ (rules.drop 1).map Rule.kind = (others.drop 1).map Rule.kind := by
  have hlist := congrArg String.toList h
  cases rules with
  | nil =>
      cases others with
      | nil => exact ⟨List.Forall₂.nil, rfl⟩
      | cons other others =>
          rw [toList_joinedText_cons] at hlist
          exact absurd (List.append_eq_nil_iff.1 hlist.symm).1
            (hwrite.ne_nil other (hothers other List.mem_cons_self))
  | cons rule rules =>
      obtain ⟨hrule, hrules⟩ := List.forall_mem_cons.1 hrules
      cases others with
      | nil =>
          rw [toList_joinedText_cons] at hlist
          exact absurd (List.append_eq_nil_iff.1 hlist).1 (hwrite.ne_nil rule hrule)
      | cons other others =>
          obtain ⟨hother, hothers⟩ := List.forall_mem_cons.1 hothers
          rw [toList_joinedText_cons, toList_joinedText_cons] at hlist
          obtain ⟨htold, hrest⟩ := hwrite.reads rule other hrule hother _ _
            (endsRule_followers write rules) (endsRule_followers write others) hlist
          obtain ⟨htolds, hkinds⟩ := hwrite.followers hrules hothers hrest
          exact ⟨List.Forall₂.cons htold htolds, hkinds⟩

end Lists

/-- Both rules are always open, one because it says so and one because of the years it names. -/
def Rule.AlwaysByYears (rule other : Rule) : Prop :=
  rule.always = true ∧ rule.years = [] ∧ other.always = false
    ∧ other.years = [YearRange.likeAlways]

/-- The rules agree on everything but their kinds, or on everything but their kinds and on how
they are always open. -/
structure Rule.SharesText (rule other : Rule) : Prop where
  head : (rule.always = other.always ∧ rule.years = other.years)
    ∨ rule.AlwaysByYears other ∨ other.AlwaysByYears rule
  dates : rule.dates = other.dates
  weeks : rule.weeks = other.weeks
  holidays : rule.holidays = other.holidays
  days : rule.days = other.days
  times : rule.times = other.times
  modifier : rule.modifier = other.modifier
  comment : rule.comment = other.comment

theorem headTold_eq_iff (rule other : Rule) :
    headTold (rule.always, rule.years) = headTold (other.always, other.years)
      ↔ (rule.always = other.always ∧ rule.years = other.years)
        ∨ rule.AlwaysByYears other ∨ other.AlwaysByYears rule := by
  have htold : ∀ rule : Rule, ¬ (rule.always = true ∧ rule.years = []) →
      headTold (rule.always, rule.years) = (rule.always, rule.years) :=
    fun rule hrule => if_neg (fun hhead => hrule (Prod.mk.inj hhead))
  have halways : ∀ rule : Rule, rule.always = true ∧ rule.years = [] →
      headTold (rule.always, rule.years) = (false, [YearRange.likeAlways]) :=
    fun rule hrule => if_pos (by rw [hrule.1, hrule.2])
  by_cases hrule : rule.always = true ∧ rule.years = []
  · by_cases hother : other.always = true ∧ other.years = []
    · rw [halways rule hrule, halways other hother]
      exact ⟨fun _ => Or.inl ⟨hrule.1.trans hother.1.symm, hrule.2.trans hother.2.symm⟩,
        fun _ => rfl⟩
    · rw [halways rule hrule, htold other hother, Prod.mk.injEq]
      constructor
      · rintro ⟨hnever, hyears⟩
        exact Or.inr (Or.inl ⟨hrule.1, hrule.2, hnever.symm, hyears.symm⟩)
      · rintro (⟨hsame, hyears⟩ | hclash | hclash)
        · exact absurd ⟨hsame ▸ hrule.1, hyears ▸ hrule.2⟩ hother
        · exact ⟨hclash.2.2.1.symm, hclash.2.2.2.symm⟩
        · exact absurd ⟨hclash.1, hclash.2.1⟩ hother
  · by_cases hother : other.always = true ∧ other.years = []
    · rw [htold rule hrule, halways other hother, Prod.mk.injEq]
      constructor
      · rintro ⟨hnever, hyears⟩
        exact Or.inr (Or.inr ⟨hother.1, hother.2, hnever, hyears⟩)
      · rintro (⟨hsame, hyears⟩ | hclash | hclash)
        · exact absurd ⟨hsame ▸ hother.1, hyears ▸ hother.2⟩ hrule
        · exact absurd ⟨hclash.1, hclash.2.1⟩ hrule
        · exact ⟨hclash.2.2.1, hclash.2.2.2⟩
    · rw [htold rule hrule, htold other hother, Prod.mk.injEq]
      constructor
      · exact Or.inl
      · rintro (hsame | hclash | hclash)
        · exact hsame
        · exact absurd ⟨hclash.1, hclash.2.1⟩ hrule
        · exact absurd ⟨hclash.1, hclash.2.1⟩ hother

theorem Rule.sharesText_iff (rule other : Rule) :
    rule.SharesText other
      ↔ (rule.plainTold, rule.comment) = (other.plainTold, other.comment) := by
  constructor
  · intro hshares
    have hhead := (headTold_eq_iff rule other).2 hshares.head
    rw [Rule.plainTold, Rule.plainTold, hhead, hshares.dates, hshares.weeks, hshares.holidays,
      hshares.days, hshares.times, hshares.modifier, hshares.comment]
  · intro h
    simp only [Rule.plainTold, Prod.mk.injEq] at h
    obtain ⟨⟨⟨⟨⟨⟨hhead, hdates⟩, hweeks⟩, hholidays, hdays⟩, htimes⟩, hmodifier⟩, hcomment⟩ := h
    exact ⟨(headTold_eq_iff rule other).1 hhead, hdates, hweeks, hholidays, hdays, htimes,
      hmodifier, hcomment⟩

/-- What the labelled text tells is the whole rule. -/
theorem Rule.eq_of_labelledTold {rule other : Rule}
    (h : (rule.labelledTold, rule.comment) = (other.labelledTold, other.comment)) :
    rule = other := by
  cases rule
  cases other
  simp only [Rule.labelledTold, Prod.mk.injEq] at h
  obtain ⟨⟨hkind, ⟨⟨⟨⟨⟨halways, hyears⟩, hdates⟩, hweeks⟩, hholidays, hdays⟩, htimes⟩, hmodifier⟩,
    hcomment⟩ := h
  rw [Rule.tagged_injective hkind, halways, hyears, hdates, hweeks, hholidays, hdays, htimes,
    hmodifier, hcomment]

theorem Rule.SharesText.text_eq {rule other : Rule} (hshares : rule.SharesText other) :
    rule.text = other.text := by
  have hjoins : rule.joins = other.joins := by rw [Rule.joins, Rule.joins, hshares.holidays]
  have hhead : headText other.joins (rule.always, rule.years)
      = headText other.joins (other.always, other.years) := by
    rw [← String.toList_inj, ← toList_headText_headTold (rule.always, rule.years),
      (headTold_eq_iff rule other).2 hshares.head, toList_headText_headTold]
  have hfront : (Frame.plain other.joins).front rule = (Frame.plain other.joins).front other := by
    rw [headText, headText] at hhead
    rw [Frame.front, Frame.front, hhead, hshares.dates, hshares.weeks, hshares.holidays,
      hshares.days, hshares.times, hshares.modifier]
  rw [← String.toList_inj, Rule.toList_text_eq_tail, Rule.toList_text_eq_tail, hjoins,
    Frame.text_parts, Frame.text_parts, hfront, hshares.comment]

section Renderings

open Joining

theorem readable_of_mem_filled {rules : List Rule} (hrules : ∀ rule ∈ rules, rule.Unquoted) :
    ∀ rule ∈ filled rules, rule.Readable :=
  fun rule hrule => ⟨not_isEmpty_of_mem_filled hrule, hrules rule (mem_of_mem_filled hrule)⟩

theorem followers_eq_of_forall₂ {rules others : List Rule}
    (hshares : List.Forall₂ Rule.SharesText rules others)
    (hkinds : rules.map Rule.kind = others.map Rule.kind) :
    followers Rule.text rules = followers Rule.text others := by
  induction hshares with
  | nil => rfl
  | @cons rule other rules others hshares hrest ih =>
      obtain ⟨hkind, hrestKinds⟩ := List.cons.inj hkinds
      have hseparator : OpeningRule.kind rule = OpeningRule.kind other := hkind
      rw [followers_cons, followers_cons, ih hrestKinds, hshares.text_eq, hseparator]

theorem joinedText_eq_of_forall₂ {rules others : List Rule}
    (hshares : List.Forall₂ Rule.SharesText rules others)
    (hkinds : (rules.drop 1).map Rule.kind = (others.drop 1).map Rule.kind) :
    joinedText Rule.text rules = joinedText Rule.text others := by
  cases hshares with
  | nil => rfl
  | cons hfirst hrest =>
      rw [joinedText, joinedText, hfirst.text_eq, followers_eq_of_forall₂ hrest hkinds]

/-- The labelled rendering of rules whose comments contain no quotes determines the rules that are
not empty.  The rendering in the grammar determines them up to the kind of the first one and up to
how each of them is always open. -/
theorem renderRules_eq_iff (rules others : List Rule) (hrules : ∀ rule ∈ rules, rule.Unquoted)
    (hothers : ∀ rule ∈ others, rule.Unquoted) :
    ((renderRules .labelled rules).value = (renderRules .labelled others).value
        ↔ filled rules = filled others)
      ∧ ((renderRules .canonical rules).value = (renderRules .canonical others).value
        ↔ List.Forall₂ Rule.SharesText (filled rules) (filled others)
          ∧ ((filled rules).drop 1).map Rule.kind = ((filled others).drop 1).map Rule.kind) := by
  have hreadable := readable_of_mem_filled hrules
  have hreadables := readable_of_mem_filled hothers
  refine ⟨⟨?_, ?_⟩, ⟨?_, ?_⟩⟩
  · intro h
    rw [renderRules, renderRules, value_joinRules, value_joinRules] at h
    obtain ⟨htolds, -⟩ := readsRules_labelledText.joinedText hreadable hreadables h
    exact List.forall₂_eq_eq_eq ▸ htolds.imp (fun _ _ => Rule.eq_of_labelledTold)
  · intro h
    rw [renderRules, renderRules, value_joinRules, value_joinRules, h]
  · intro h
    rw [renderRules, renderRules, value_joinRules, value_joinRules] at h
    obtain ⟨htolds, hkinds⟩ := readsRules_text.joinedText hreadable hreadables h
    exact ⟨htolds.imp (fun rule other => (rule.sharesText_iff other).2), hkinds⟩
  · rintro ⟨hshares, hkinds⟩
    rw [renderRules, renderRules, value_joinRules, value_joinRules]
    exact joinedText_eq_of_forall₂ hshares hkinds

theorem renderRules_eq_always_by_years :
    (renderRules .canonical
        ([{ always := true, comment := some "ring" }, { modifier := some .off }] : List Rule)).value
      = (renderRules .canonical
        ([{ kind := .fallback, years := [⟨24, none, some 7⟩], comment := some "ring" }, {},
          { modifier := some .off }] : List Rule)).value := by
  refine (renderRules_eq_iff _ _ (by decide) (by decide)).2.2 ⟨?_, rfl⟩
  refine List.Forall₂.cons ?_ (List.Forall₂.cons ?_ List.Forall₂.nil)
  · exact ⟨Or.inr (Or.inl ⟨rfl, rfl, rfl, rfl⟩), rfl, rfl, rfl, rfl, rfl, rfl, rfl⟩
  · exact ⟨Or.inl ⟨rfl, rfl⟩, rfl, rfl, rfl, rfl, rfl, rfl, rfl⟩

end Renderings

end OpeningTimes

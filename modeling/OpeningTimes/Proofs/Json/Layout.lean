import OpeningTimes.Proofs.Json.Spelling

/-!
Layouts of a tree.  Between the tokens of a written tree any blanks may stand, and strings may be
spelled in any way; both written forms are layouts.
-/

namespace OpeningTimes.Json

/-- Values one after the other with commas between them, each written as `P` says and with any
blanks around it. -/
inductive Separated {α : Type} (P : α → List Char → Prop) : List α → List Char → Prop
  | nil {blanks : List Char} (hblanks : AllBlank blanks) : Separated P [] blanks
  | last {value : α} {before text after : List Char} (hbefore : AllBlank before)
      (htext : P value text) (hafter : AllBlank after) :
      Separated P [value] (before ++ (text ++ after))
  | more {value next : α} {values : List α} {before text after texts : List Char}
      (hbefore : AllBlank before) (htext : P value text) (hafter : AllBlank after)
      (hvalues : Separated P (next :: values) texts) :
      Separated P (value :: next :: values) (before ++ (text ++ (after ++ ',' :: texts)))

/-- A key, a colon and a value, the key written as `K` and the value as `P` says, with any blanks
around the colon. -/
inductive MemberText {κ α : Type} (K : κ → List Char → Prop) (P : α → List Char → Prop) :
    κ × α → List Char → Prop
  | intro {key : κ} {value : α} {name before after text : List Char} (hname : K key name)
      (hbefore : AllBlank before) (hafter : AllBlank after) (htext : P value text) :
      MemberText K P (key, value) (name ++ (before ++ ':' :: (after ++ text)))

/-- The text writes the tree, with any blanks between its tokens and any spelling of its
strings. -/
inductive Laid : Json → List Char → Prop
  | boolean (value : Bool) : Laid (.boolean value) (if value then "true" else "false").toList
  | integer (value : Int) : Laid (.integer value) (toString value).toList
  | string {value : String} {text : List Char} (hspelled : Spelled value text) :
      Laid (.string value) text
  | list {items : List Json} {text : List Char} (hitems : Separated Laid items text) :
      Laid (.list items) ('[' :: (text ++ [']']))
  | object {members : List (String × Json)} {text : List Char}
      (hmembers : Separated (MemberText Spelled Laid) members text) :
      Laid (.object members) ('\x7b' :: (text ++ ['\x7d']))

/-- What holds of shorter texts holds of all texts between commas. -/
theorem Separated.imp_of_length {α : Type} {P Q : α → List Char → Prop} {values : List α}
    {text : List Char} (hvalues : Separated P values text)
    (himp : ∀ value part, part.length ≤ text.length → P value part → Q value part) :
    Separated Q values text := by
  induction hvalues with
  | nil hblanks => exact .nil hblanks
  | last hbefore htext hafter =>
      exact .last hbefore (himp _ _ (by simp only [List.length_append]; omega) htext) hafter
  | more hbefore htext hafter _ ih =>
      refine .more hbefore (himp _ _ (by simp only [List.length_append]; omega) htext) hafter ?_
      refine ih fun value part hpart => himp value part ?_
      simp only [List.length_append, List.length_cons]
      omega

theorem MemberText.imp_of_length {κ α : Type} {K : κ → List Char → Prop}
    {P Q : α → List Char → Prop} {member : κ × α} {text : List Char}
    (hmember : MemberText K P member text)
    (himp : ∀ value part, part.length ≤ text.length → P value part → Q value part) :
    MemberText K Q member text := by
  cases hmember with
  | intro hname hbefore hafter htext =>
      refine .intro hname hbefore hafter (himp _ _ ?_ htext)
      simp only [List.length_append, List.length_cons]
      omega

theorem Separated.imp {α : Type} {P Q : α → List Char → Prop} {values : List α}
    {text : List Char} (hvalues : Separated P values text)
    (himp : ∀ value text, P value text → Q value text) : Separated Q values text :=
  hvalues.imp_of_length fun value part _ => himp value part

/-- The texts of the values of members. -/
theorem Separated.exists_texts {κ α : Type} {K : κ → List Char → Prop} {P : α → List Char → Prop}
    {members : List (κ × α)} {text : List Char}
    (hmembers : Separated (MemberText K P) members text) :
    ∃ written : List (κ × List Char), Separated (MemberText K Eq) written text ∧
      written.map Prod.fst = members.map Prod.fst ∧
      ∀ pair ∈ written, ∃ member ∈ members, member.1 = pair.1 ∧ P member.2 pair.2 := by
  induction hmembers with
  | nil hblanks => exact ⟨[], .nil hblanks, rfl, by simp⟩
  | last hbefore hmember hafter =>
      cases hmember with
      | @intro key value name middle between text hname hmiddle hbetween htext =>
          refine ⟨[(key, text)], .last hbefore (.intro hname hmiddle hbetween rfl) hafter, rfl, ?_⟩
          exact List.forall_mem_singleton.2 ⟨(key, value), List.mem_cons_self, rfl, htext⟩
  | more hbefore hmember hafter _ ih =>
      obtain ⟨written, hwritten, hkeys, htexts⟩ := ih
      obtain ⟨pair, others, rfl, -, -⟩ := List.map_eq_cons_iff.1 hkeys
      cases hmember with
      | @intro key value name middle between text hname hmiddle hbetween htext =>
          refine ⟨(key, text) :: pair :: others,
            .more hbefore (.intro hname hmiddle hbetween rfl) hafter hwritten,
            congrArg (key :: ·) hkeys, ?_⟩
          refine List.forall_mem_cons.2 ⟨⟨(key, value), List.mem_cons_self, rfl, htext⟩, ?_⟩
          intro other hother
          obtain ⟨member, hmember, hsame⟩ := htexts other hother
          exact ⟨member, List.mem_cons_of_mem _ hmember, hsame⟩

theorem Separated.of_map {α β : Type} {P : β → List Char → Prop} {f : α → β} {values : List α}
    {text : List Char} (hvalues : Separated P (values.map f) text) :
    Separated (fun value => P (f value)) values text := by
  generalize hmapped : values.map f = mapped at hvalues
  induction hvalues generalizing values with
  | nil hblanks =>
      obtain rfl := List.map_eq_nil_iff.1 hmapped
      exact .nil hblanks
  | last hbefore htext hafter =>
      obtain ⟨value, rfl, rfl⟩ := List.map_eq_singleton_iff.1 hmapped
      exact .last hbefore htext hafter
  | more hbefore htext hafter _ ih =>
      obtain ⟨value, values, rfl, rfl, hrest⟩ := List.map_eq_cons_iff.1 hmapped
      obtain ⟨next, values, rfl, rfl, rfl⟩ := List.map_eq_cons_iff.1 hrest
      exact .more hbefore htext hafter (ih rfl)

/-- Separated values start with the first one after blanks. -/
theorem Separated.exists_front {α : Type} {P : α → List Char → Prop} {value : α}
    {values : List α} {text : List Char} (hvalues : Separated P (value :: values) text) :
    ∃ before front back, AllBlank before ∧ P value front ∧ text = before ++ (front ++ back) := by
  cases hvalues with
  | last hbefore htext _ => exact ⟨_, _, _, hbefore, htext, rfl⟩
  | more hbefore htext _ _ => exact ⟨_, _, _, hbefore, htext, rfl⟩

theorem Separated.skipBlank_append {α : Type} {P : α → List Char → Prop} {value : α}
    {values : List α} {text : List Char} (hvalues : Separated P (value :: values) text)
    (hopens : ∀ text, P value text → Opens text) (rest : List Char) :
    ∃ c tail, skipBlank (text ++ rest) = c :: tail ∧ c ≠ ']' := by
  obtain ⟨before, front, back, hbefore, hfront, rfl⟩ := hvalues.exists_front
  obtain ⟨c, tail, rfl, htoken, hopen⟩ := hopens _ hfront
  refine ⟨c, tail ++ (back ++ rest), ?_, hopen⟩
  rw [List.append_assoc, Json.skipBlank_append hbefore, List.cons_append, List.cons_append,
    skipBlank_token htoken, List.append_assoc]

/-- Members begin with the quote that their keys begin with. -/
theorem MemberText.exists_quote {κ α : Type} {K : κ → List Char → Prop}
    {P : α → List Char → Prop} {member : κ × α} {text : List Char}
    (htext : MemberText K P member text) (hquote : ∀ key name, K key name → name.head? = some '"') :
    ∃ tail, text = '"' :: tail := by
  cases htext with
  | intro hname _ _ _ =>
      obtain ⟨tail, rfl⟩ := List.head?_eq_some_iff.1 (hquote _ _ hname)
      exact ⟨_, rfl⟩

theorem MemberText.skipBlank_append {κ α : Type} {K : κ → List Char → Prop}
    {P : α → List Char → Prop} {member : κ × α} {before text : List Char}
    (htext : MemberText K P member text) (hquote : ∀ key name, K key name → name.head? = some '"')
    (hbefore : AllBlank before) (rest : List Char) :
    skipBlank (before ++ (text ++ rest)) = text ++ rest := by
  obtain ⟨tail, rfl⟩ := htext.exists_quote hquote
  rw [Json.skipBlank_append hbefore]
  exact skipBlank_token (by decide) _

theorem Separated.skipBlank_member {κ α : Type} {K : κ → List Char → Prop}
    {P : α → List Char → Prop} {member : κ × α} {members : List (κ × α)} {text : List Char}
    (hmembers : Separated (MemberText K P) (member :: members) text)
    (hquote : ∀ key name, K key name → name.head? = some '"') (rest : List Char) :
    ∃ tail, skipBlank (text ++ rest) = '"' :: tail := by
  obtain ⟨before, front, back, hbefore, hfront, rfl⟩ := hmembers.exists_front
  obtain ⟨tail, rfl⟩ := hfront.exists_quote hquote
  refine ⟨tail ++ (back ++ rest), ?_⟩
  rw [List.append_assoc, List.append_assoc, hfront.skipBlank_append hquote hbefore]
  rfl

theorem Separated.length_le {α : Type} {P : α → List Char → Prop} {values : List α}
    {text : List Char} (hvalues : Separated P values text) : values.length ≤ text.length + 1 := by
  induction hvalues with
  | nil hblanks => exact Nat.zero_le _
  | last hbefore htext hafter => simp
  | more hbefore htext hafter _ ih =>
      simp only [List.length_cons, List.length_append] at ih ⊢
      omega

/-- A single value may stand without any blanks. -/
theorem Separated.single {α : Type} {P : α → List Char → Prop} {value : α} {text : List Char}
    (htext : P value text) : Separated P [value] text := by
  simpa using Separated.last allBlank_nil htext allBlank_nil

/-- Blanks may be added at the start. -/
theorem Separated.prepend_blank {α : Type} {P : α → List Char → Prop} {values : List α}
    {text blanks : List Char} (hvalues : Separated P values text) (hblanks : AllBlank blanks) :
    Separated P values (blanks ++ text) := by
  cases hvalues with
  | nil hbefore => exact .nil (hblanks.append hbefore)
  | last hbefore htext hafter =>
      rw [← List.append_assoc]
      exact .last (hblanks.append hbefore) htext hafter
  | more hbefore htext hafter hvalues =>
      rw [← List.append_assoc]
      exact .more (hblanks.append hbefore) htext hafter hvalues

/-- Blanks may be added at the end. -/
theorem Separated.append_blank {α : Type} {P : α → List Char → Prop} {values : List α}
    {text blanks : List Char} (hvalues : Separated P values text) (hblanks : AllBlank blanks) :
    Separated P values (text ++ blanks) := by
  induction hvalues with
  | nil hbefore => exact .nil (hbefore.append hblanks)
  | last hbefore htext hafter =>
      rw [List.append_assoc, List.append_assoc]
      exact .last hbefore htext (hafter.append hblanks)
  | more hbefore htext hafter _ ih =>
      simp only [List.append_assoc, List.cons_append]
      exact .more hbefore htext hafter ih

/-- Two texts of separated values with a comma between them separate the values of both. -/
theorem Separated.append_comma {α : Type} {P : α → List Char → Prop} {values others : List α}
    {text more : List Char} (hvalues : Separated P values text) (hne : values ≠ [])
    (hothers : Separated P others more) (hmore : others ≠ []) :
    Separated P (values ++ others) (text ++ ',' :: more) := by
  obtain ⟨other, others, rfl⟩ := List.exists_cons_of_ne_nil hmore
  induction hvalues with
  | nil _ => exact absurd rfl hne
  | last hbefore htext hafter =>
      simp only [List.append_assoc, List.cons_append, List.nil_append]
      exact .more hbefore htext hafter hothers
  | more hbefore htext hafter _ ih =>
      simp only [List.append_assoc, List.cons_append]
      exact .more hbefore htext hafter (ih (List.cons_ne_nil _ _))

theorem Laid.exists_separated {items : List Json} {text : List Char}
    (hlaid : Laid (.list items) text) :
    ∃ content, text = '[' :: (content ++ [']']) ∧ Separated Laid items content := by
  cases hlaid with
  | list hitems => exact ⟨_, rfl, hitems⟩

mutual

/-- The compact form is a layout of the tree. -/
theorem laid_compact : (json : Json) → Laid json json.compact.toList
  | .boolean value => by
      rw [compact]
      exact .boolean value
  | .integer value => by
      rw [compact]
      exact .integer value
  | .string value => by
      rw [compact]
      exact .string (spelled_stringText value)
  | .list items => by
      have hitems := laid_compactItems items
      simpa [compact] using Laid.list hitems
  | .object members => by
      have hmembers := laid_compactMembers members
      simpa [compact] using Laid.object hmembers

theorem laid_compactItems : (items : List Json) → Separated Laid items (compactItems items).toList
  | [] => .nil allBlank_nil
  | [item] => by
      rw [compactItems]
      exact .single (laid_compact item)
  | item :: next :: rest => by
      have hrest := laid_compactItems (next :: rest)
      simpa [compactItems] using
        Separated.more allBlank_nil (laid_compact item) allBlank_nil hrest

theorem laid_compactMembers :
    (members : List (String × Json)) →
      Separated (MemberText Spelled Laid) members (compactMembers members).toList
  | [] => .nil allBlank_nil
  | [(key, value)] => by
      rw [compactMembers]
      have hmember : MemberText Spelled Laid (key, value) _ :=
        .intro (spelled_stringText key) allBlank_nil allBlank_nil (laid_compact value)
      simpa using Separated.last allBlank_nil hmember allBlank_nil
  | (key, value) :: next :: rest => by
      have hrest := laid_compactMembers (next :: rest)
      have hmember : MemberText Spelled Laid (key, value) _ :=
        .intro (spelled_stringText key) allBlank_nil allBlank_nil (laid_compact value)
      simpa [compactMembers] using Separated.more allBlank_nil hmember allBlank_nil hrest

end

theorem toList_newLine (level : Nat) :
    (newLine level).toList = '\n' :: List.replicate (2 * level) ' ' := by
  simp [newLine]

theorem allBlank_newLine (level : Nat) : AllBlank (newLine level).toList := by
  rw [toList_newLine]
  intro c hc
  rcases List.mem_cons.1 hc with rfl | hspace
  · decide
  · obtain ⟨-, rfl⟩ := List.mem_replicate.1 hspace
    decide

mutual

/-- The form that is spread over lines is a layout of the tree at every level. -/
theorem laid_pretty : (level : Nat) → (json : Json) → Laid json (json.pretty level).toList
  | level, .boolean value => by
      rw [pretty]
      exact .boolean value
  | level, .integer value => by
      rw [pretty]
      exact .integer value
  | level, .string value => by
      rw [pretty]
      exact .string (spelled_stringText value)
  | level, .list [] => by
      rw [pretty]
      exact .list (.nil allBlank_nil)
  | level, .list (item :: rest) => by
      have hitems := (laid_prettyItems (level + 1) (item :: rest)).append_blank
        (allBlank_newLine level)
      simpa [pretty] using Laid.list hitems
  | level, .object [] => by
      rw [pretty]
      exact .object (.nil allBlank_nil)
  | level, .object (member :: rest) => by
      have hmembers := (laid_prettyMembers (level + 1) (member :: rest)).append_blank
        (allBlank_newLine level)
      simpa [pretty] using Laid.object hmembers

theorem laid_prettyItems : (level : Nat) → (items : List Json) →
    Separated Laid items (prettyItems level items).toList
  | _, [] => .nil allBlank_nil
  | level, [item] => by
      rw [prettyItems]
      simpa using Separated.last (allBlank_newLine level) (laid_pretty level item) allBlank_nil
  | level, item :: next :: rest => by
      have hrest := laid_prettyItems level (next :: rest)
      simpa [prettyItems] using
        Separated.more (allBlank_newLine level) (laid_pretty level item) allBlank_nil hrest

theorem laid_prettyMembers : (level : Nat) → (members : List (String × Json)) →
    Separated (MemberText Spelled Laid) members (prettyMembers level members).toList
  | _, [] => .nil allBlank_nil
  | level, [(key, value)] => by
      rw [prettyMembers]
      have hmember : MemberText Spelled Laid (key, value) _ :=
        .intro (spelled_stringText key) allBlank_nil allBlank_space (laid_pretty level value)
      simpa using Separated.last (allBlank_newLine level) hmember allBlank_nil
  | level, (key, value) :: next :: rest => by
      have hrest := laid_prettyMembers level (next :: rest)
      have hmember : MemberText Spelled Laid (key, value) _ :=
        .intro (spelled_stringText key) allBlank_nil allBlank_space (laid_pretty level value)
      simpa [prettyMembers] using
        Separated.more (allBlank_newLine level) hmember allBlank_nil hrest

end

end OpeningTimes.Json

import OpeningTimes.Proofs.Json.Records
import OpeningTimes.Proofs.Json.Skimming

/-!
What it takes for a text to be read.  When a list or a record is read, so are the texts of its
elements and fields, each by the decoder that is in charge of it; a field that stands nowhere has
its default, and none stands twice.
-/

namespace OpeningTimes.Json

/-- The decoder reads the text as the value somewhere. -/
def Accepts {α : Type} (read : Decoder α) (text : List Char) (value : α) : Prop :=
  ∃ blanks rest, AllBlank blanks ∧ Ends rest ∧ read (blanks ++ (text ++ rest)) = .ok (value, rest)

theorem WellFormed.opens {text : List Char} (hformed : WellFormed text) : Opens text :=
  hformed.skips.opens

theorem WellFormed.skipBlank_append {text blanks : List Char} (hformed : WellFormed text)
    (hblanks : AllBlank blanks) (rest : List Char) :
    skipBlank (blanks ++ (text ++ rest)) = text ++ rest := by
  rw [Json.skipBlank_append hblanks, hformed.opens.skipBlank_append]

/-- Separated parts that are well-formed start with something that is no closing bracket. -/
theorem exists_token_of_separated {part : List Char} {parts : List (List Char)} {text : List Char}
    (hparts : Separated Eq (part :: parts) text) (hformed : WellFormed part) (rest : List Char) :
    ∃ c tail, skipBlank (text ++ rest) = c :: tail ∧ c ≠ ']' :=
  hparts.skipBlank_append (fun _ hsame => hsame ▸ hformed.opens) rest

section Lists

variable {α : Type} {read : Decoder α}

/-- A part that is read at the start of what is left. -/
theorem Skims.accepts (hskims : Skims read) {part blanks rest left : List Char} {value : α}
    (hformed : WellFormed part) (hblanks : AllBlank blanks) (hends : Ends rest)
    (hread : read (blanks ++ (part ++ rest)) = .ok (value, left)) :
    left = rest ∧ Accepts read part value := by
  obtain rfl := hskims.rest_eq hformed hblanks hends hread
  exact ⟨rfl, blanks, left, hblanks, hends, hread⟩

/-- The step: where there is an element, it is read and then the others. -/
theorem elementsIn_of_next {rounds : Nat} {first : Bool} {s t left : List Char} {values : List α}
    (hnext : Decoder.nextElement first s = .ok (some t))
    (hread : Decoder.elementsIn read rounds first s = .ok (values, left)) :
    ∃ fewer value more u, values = value :: more ∧ read t = .ok (value, u) ∧
      Decoder.elementsIn read fewer false u = .ok (more, left) := by
  cases rounds with
  | zero => cases hread
  | succ rounds =>
      obtain ⟨found, hfound, hread⟩ := bind_eq_ok.1 hread
      rw [hnext] at hfound
      obtain rfl := Except.ok.inj hfound
      obtain ⟨⟨value, u⟩, hvalue, hread⟩ := bind_eq_ok.1 hread
      obtain ⟨⟨more, w⟩, hmore, hread⟩ := bind_eq_ok.1 hread
      obtain ⟨rfl, rfl⟩ := Prod.mk.inj (Except.ok.inj hread)
      exact ⟨rounds, value, more, u, rfl, hvalue, hmore⟩

theorem elementsIn_of_close {rounds : Nat} {first : Bool} {s left : List Char} {values : List α}
    (hclose : Decoder.nextElement first s = .ok none)
    (hread : Decoder.elementsIn read rounds first s = .ok (values, left)) : values = [] := by
  cases rounds with
  | zero => cases hread
  | succ rounds =>
      obtain ⟨found, hfound, hread⟩ := bind_eq_ok.1 hread
      rw [hclose] at hfound
      obtain rfl := Except.ok.inj hfound
      exact (Prod.mk.inj (Except.ok.inj hread)).1.symm

/-- The run: all parts are read, one after the other. -/
theorem accepts_elementsIn (hskims : Skims read) {parts : List (List Char)} {text : List Char}
    (hparts : Separated Eq parts text) (hne : parts ≠ [])
    (hformed : ∀ part ∈ parts, WellFormed part) (rest : List Char) {rounds : Nat} {first : Bool}
    {s left : List Char} {values : List α}
    (hnext : Decoder.nextElement first s = .ok (some (skipBlank (text ++ ']' :: rest))))
    (hread : Decoder.elementsIn read rounds first s = .ok (values, left)) :
    List.Forall₂ (Accepts read) parts values := by
  induction hparts generalizing rounds first s values with
  | nil _ => exact absurd rfl hne
  | @last part before _ after hbefore hsame hafter =>
      subst hsame
      have hpart := hformed part List.mem_cons_self
      obtain ⟨fewer, value, more, u, rfl, hvalue, hmore⟩ := elementsIn_of_next hnext hread
      rw [List.append_assoc, List.append_assoc, hpart.skipBlank_append hbefore] at hvalue
      obtain ⟨rfl, haccepts⟩ := hskims.accepts hpart allBlank_nil
        (ends_append hafter (ends_cons (by simp) rest)) hvalue
      obtain rfl := elementsIn_of_close (nextElement_close false hafter rest) hmore
      exact .cons haccepts .nil
  | @more part next parts before _ after texts hbefore hsame hafter hparts ih =>
      subst hsame
      rw [List.forall_mem_cons] at hformed
      obtain ⟨fewer, value, more, u, rfl, hvalue, hmore⟩ := elementsIn_of_next hnext hread
      rw [List.append_assoc, List.append_assoc, List.append_assoc, List.cons_append,
        hformed.1.skipBlank_append hbefore] at hvalue
      obtain ⟨rfl, haccepts⟩ := hskims.accepts hformed.1 allBlank_nil
        (ends_append hafter (ends_cons (by simp) _)) hvalue
      obtain ⟨c, tail, hskip, hopen⟩ :=
        exists_token_of_separated hparts (hformed.2 next List.mem_cons_self) (']' :: rest)
      exact .cons haccepts (ih (List.cons_ne_nil _ _) hformed.2
        (nextElement_comma hafter hskip hopen) hmore)

/-- When a list is read, its parts are read as its elements. -/
theorem accepts_list (hskims : Skims read) {parts : List (List Char)} {text : List Char}
    (hparts : Separated Eq parts text) (hformed : ∀ part ∈ parts, WellFormed part)
    {values : List α} (haccepts : Accepts (Decoder.list read) ('[' :: (text ++ [']'])) values) :
    List.Forall₂ (Accepts read) parts values := by
  obtain ⟨blanks, rest, hblanks, -, hread⟩ := haccepts
  have hbracket : skipBlank (blanks ++ ('[' :: (text ++ [']']) ++ rest)) =
      '[' :: (text ++ ']' :: rest) := by
    simpa using skipBlank_append_token hblanks (show isBlank '[' = false by decide)
      (text ++ ']' :: rest)
  simp only [Decoder.list, hbracket] at hread
  split at hread
  · cases hread
  · next found left helements =>
    obtain ⟨rfl, -⟩ := Prod.mk.inj (Except.ok.inj hread)
    cases parts with
    | nil =>
        cases hparts with
        | nil hinner =>
            rw [elementsIn_of_close (nextElement_close true hinner rest) helements]
            exact .nil
    | cons part parts =>
        obtain ⟨c, tail, hskip, hopen⟩ :=
          exists_token_of_separated hparts (hformed part List.mem_cons_self) (']' :: rest)
        exact accepts_elementsIn hskims hparts (List.cons_ne_nil _ _) hformed rest
          (nextElement_first hskip hopen) helements

end Lists

section Objects

variable {types : List Type} {fields : Fields types}

/-- The members are read into one draft after the other. -/
inductive Fields.Absorbs (fields : Fields types) :
    Draft types → List (String × List Char) → Draft types → Prop
  | nil (draft : Draft types) : Absorbs fields draft [] draft
  | cons {start next final : Draft types} {member : String × List Char}
      {members : List (String × List Char)} {before after rest : List Char}
      (hbefore : AllBlank before) (hafter : AllBlank after) (hends : Ends rest)
      (hread : fields.member member.1 start (before ++ ':' :: (after ++ (member.2 ++ rest))) =
        .ok (next, rest))
      (habsorbs : Absorbs fields next members final) :
      Absorbs fields start (member :: members) final

/-- The step: where there is a key, its member is read and then the others. -/
theorem membersIn_of_next {rounds : Nat} {first : Bool} {s t left : List Char}
    {start final : Draft types} (hnext : nextKey first s = .ok (some t))
    (hread : membersIn fields rounds first start s = .ok (final, left)) :
    ∃ fewer key next u v, stringTail t = .ok (key, u) ∧
      fields.member key start u = .ok (next, v) ∧
      membersIn fields fewer false next v = .ok (final, left) := by
  cases rounds with
  | zero => cases hread
  | succ rounds =>
      obtain ⟨found, hfound, hread⟩ := bind_eq_ok.1 hread
      rw [hnext] at hfound
      obtain rfl := Except.ok.inj hfound
      obtain ⟨⟨key, u⟩, hkey, hread⟩ := bind_eq_ok.1 hread
      obtain ⟨⟨next, v⟩, hmember, hread⟩ := bind_eq_ok.1 hread
      exact ⟨rounds, key, next, u, v, hkey, hmember, hread⟩

theorem membersIn_of_close {rounds : Nat} {first : Bool} {s left : List Char}
    {start final : Draft types} (hclose : nextKey first s = .ok none)
    (hread : membersIn fields rounds first start s = .ok (final, left)) : final = start := by
  cases rounds with
  | zero => cases hread
  | succ rounds =>
      obtain ⟨found, hfound, hread⟩ := bind_eq_ok.1 hread
      rw [hclose] at hfound
      obtain rfl := Except.ok.inj hfound
      exact (Prod.mk.inj (Except.ok.inj hread)).1.symm

/-- A written member is read to its end. -/
theorem absorbs_member (hskim : fields.Skim) {member : String × List Char} {text : List Char}
    (htext : MemberText Spelled Eq member text) (hformed : WellFormed member.2) {rounds : Nat}
    {first : Bool} {s tail rest left : List Char} {start final : Draft types} (hends : Ends rest)
    (htail : text ++ rest = '"' :: tail) (hnext : nextKey first s = .ok (some tail))
    (hread : membersIn fields rounds first start s = .ok (final, left)) :
    ∃ fewer next, membersIn fields fewer false next rest = .ok (final, left) ∧
      ∀ {members}, fields.Absorbs next members final →
        fields.Absorbs start (member :: members) final := by
  obtain ⟨fewer, key, next, u, v, hkey, hmember, hmore⟩ := membersIn_of_next hnext hread
  cases htext with
  | @intro written part name before after _ hname hbefore hafter hsame =>
      subst hsame
      obtain ⟨pieces, hpieces, rfl⟩ := hname
      obtain rfl : pieces.flatten ++ '"' ::
          (before ++ ':' :: (after ++ (part ++ rest))) = tail := by
        simpa using htail
      rw [stringTail_of_spelled hpieces] at hkey
      obtain ⟨rfl, rfl⟩ := Prod.mk.inj (Except.ok.inj hkey)
      obtain ⟨t, hcolon, hpasses⟩ := hskim.member hmember
      rw [colon_append hbefore] at hcolon
      obtain rfl := Except.ok.inj hcolon
      obtain rfl := hpasses.unique (hformed.passes hafter hends)
      exact ⟨fewer, next, hmore, .cons hbefore hafter hends hmember⟩

/-- The run: all members are read, one after the other. -/
theorem absorbs_membersIn (hskim : fields.Skim) {members : List (String × List Char)}
    {text : List Char} (hmembers : MembersText members text) (hne : members ≠ [])
    (hformed : ∀ member ∈ members, WellFormed member.2) (rest : List Char) {rounds : Nat}
    {first : Bool} {s tail left : List Char} {start final : Draft types}
    (htail : skipBlank (text ++ '\x7d' :: rest) = '"' :: tail)
    (hnext : nextKey first s = .ok (some tail))
    (hread : membersIn fields rounds first start s = .ok (final, left)) :
    fields.Absorbs start members final := by
  induction hmembers generalizing rounds first s tail start with
  | nil _ => exact absurd rfl hne
  | @last member before text after hbefore htext hafter =>
      rw [List.append_assoc, List.append_assoc, htext.skipBlank_append Spelled.head? hbefore]
        at htail
      obtain ⟨fewer, next, hmore, habsorbs⟩ := absorbs_member hskim htext
        (hformed member List.mem_cons_self) (ends_append hafter (ends_cons (by simp) rest)) htail
        hnext hread
      obtain rfl := membersIn_of_close (nextKey_close false hafter rest) hmore
      exact habsorbs (.nil _)
  | @more member next members before text after texts hbefore htext hafter hmembers ih =>
      rw [List.forall_mem_cons] at hformed
      rw [List.append_assoc, List.append_assoc, List.append_assoc, List.cons_append,
        htext.skipBlank_append Spelled.head? hbefore] at htail
      obtain ⟨fewer, draft, hmore, habsorbs⟩ := absorbs_member hskim htext hformed.1
        (ends_append hafter (ends_cons (by simp) _)) htail hnext hread
      obtain ⟨tail, hskip⟩ := hmembers.skipBlank_member Spelled.head? ('\x7d' :: rest)
      exact habsorbs (ih (List.cons_ne_nil _ _) hformed.2 hskip (nextKey_comma hafter hskip) hmore)

/-- When an object is read, its inner text is read into a draft that is complete. -/
theorem membersIn_of_accepts {name : String} {text : List Char} {values : Values types}
    (haccepts : Accepts (Decoder.record name fields) ('\x7b' :: (text ++ ['\x7d'])) values) :
    ∃ rounds rest draft left,
      membersIn fields rounds true fields.blank (text ++ '\x7d' :: rest) = .ok (draft, left) ∧
        fields.complete draft = .ok values := by
  obtain ⟨blanks, rest, hblanks, -, hread⟩ := haccepts
  have hbrace : skipBlank (blanks ++ ('\x7b' :: (text ++ ['\x7d']) ++ rest)) =
      '\x7b' :: (text ++ '\x7d' :: rest) := by
    simpa using skipBlank_append_token hblanks (show isBlank '\x7b' = false by decide)
      (text ++ '\x7d' :: rest)
  simp only [Decoder.record, hbrace] at hread
  split at hread
  · cases hread
  · next found left hkeyed =>
    obtain ⟨rfl, -⟩ := Prod.mk.inj (Except.ok.inj hread)
    obtain ⟨⟨draft, after⟩, hdraft, hkeyed⟩ := bind_eq_ok.1 hkeyed
    refine ⟨_, rest, draft, after, hdraft, ?_⟩
    dsimp only at hkeyed
    split at hkeyed
    · next hcomplete => rw [hcomplete, (Prod.mk.inj (Except.ok.inj hkeyed)).1]
    · cases hkeyed

/-- When an object is read, its members are read into a draft that is complete. -/
theorem accepts_object (hskim : fields.Skim) {name : String} {members : List (String × List Char)}
    {text : List Char} (hmembers : MembersText members text)
    (hformed : ∀ member ∈ members, WellFormed member.2) {values : Values types}
    (haccepts : Accepts (Decoder.record name fields) ('\x7b' :: (text ++ ['\x7d'])) values) :
    ∃ draft, fields.Absorbs fields.blank members draft ∧ fields.complete draft = .ok values := by
  obtain ⟨rounds, rest, draft, left, hdraft, hcomplete⟩ := membersIn_of_accepts haccepts
  refine ⟨draft, ?_, hcomplete⟩
  cases members with
  | nil =>
      cases hmembers with
      | nil hinner =>
          rw [membersIn_of_close (nextKey_close true hinner rest) hdraft]
          exact .nil _
  | cons member members =>
      obtain ⟨tail, hskip⟩ := hmembers.skipBlank_member Spelled.head? ('\x7d' :: rest)
      exact absorbs_membersIn hskim hmembers (List.cons_ne_nil _ _) hformed rest hskip
        (nextKey_first hskip) hdraft

end Objects

section Positions

variable {types : List Type}

/-- The parts are read as the values of the first fields, and the other fields have their
defaults. -/
inductive Fields.Ordered : {types : List Type} → Fields types → List (List Char) → Values types →
    Prop
  | nil (parts : List (List Char)) : Ordered .nil parts ()
  | part {α : Type} {types : List Type} {field : Field α} {fields : Fields types}
      {part : List Char} {parts : List (List Char)} {value : α} {values : Values types}
      (haccepts : Accepts field.read part value) (hrest : Ordered fields parts values) :
      Ordered (.cons field fields) (part :: parts) (value, values)
  | default {α : Type} {types : List Type} {field : Field α} {fields : Fields types} {value : α}
      {values : Values types} (hdefault : field.default? = some value)
      (hrest : Ordered fields [] values) : Ordered (.cons field fields) [] (value, values)

theorem Fields.ordered_close {fields : Fields types} {record : String} {total index : Nat}
    {blanks : List Char} (hblanks : AllBlank blanks) {rest left : List Char}
    {values : Values types}
    (hread : fields.positional record total index (blanks ++ ']' :: rest) = .ok (values, left)) :
    fields.Ordered [] values := by
  induction fields generalizing index with
  | nil => exact .nil []
  | cons field fields ih =>
      obtain ⟨found, hfound, hread⟩ := bind_eq_ok.1 hread
      rw [nextElement_close _ hblanks] at hfound
      obtain rfl := Except.ok.inj hfound
      dsimp only at hread
      split at hread
      · cases hread
      · next value hdefault =>
        obtain ⟨⟨more, after⟩, hmore, hread⟩ := bind_eq_ok.1 hread
        obtain ⟨rfl, rfl⟩ := Prod.mk.inj (Except.ok.inj hread)
        exact .default hdefault (ih hmore)

/-- The step: where there is a part, it is read by the next field. -/
theorem Fields.positional_of_next {α : Type} {field : Field α} {fields : Fields types}
    {record : String} {total index : Nat} {s t left : List Char} {values : Values (α :: types)}
    (hnext : Decoder.nextElement (index == 0) s = .ok (some t))
    (hread : (Fields.cons field fields).positional record total index s = .ok (values, left)) :
    ∃ value more u, values = (value, more) ∧ field.read t = .ok (value, u) ∧
      fields.positional record total (index + 1) u = .ok (more, left) := by
  obtain ⟨found, hfound, hread⟩ := bind_eq_ok.1 hread
  rw [hnext] at hfound
  obtain rfl := Except.ok.inj hfound
  obtain ⟨⟨value, u⟩, hvalue, hread⟩ := bind_eq_ok.1 hread
  obtain ⟨⟨more, after⟩, hmore, hread⟩ := bind_eq_ok.1 hread
  obtain ⟨rfl, rfl⟩ := Prod.mk.inj (Except.ok.inj hread)
  exact ⟨value, more, u, rfl, hvalue, hmore⟩

/-- The run: the parts are read by the fields, one after the other. -/
theorem Fields.ordered_separated {fields : Fields types} (hskim : fields.Skim)
    {parts : List (List Char)} {text : List Char} (hparts : Separated Eq parts text)
    (hne : parts ≠ []) (hformed : ∀ part ∈ parts, WellFormed part) (record : String) (total : Nat)
    (rest : List Char) {index : Nat} {s left : List Char} {values : Values types}
    (hnext : Decoder.nextElement (index == 0) s = .ok (some (skipBlank (text ++ ']' :: rest))))
    (hread : fields.positional record total index s = .ok (values, left)) :
    fields.Ordered parts values := by
  induction hparts generalizing types index s with
  | nil _ => exact absurd rfl hne
  | @last part before _ after hbefore hsame hafter =>
      subst hsame
      have hpart := hformed part List.mem_cons_self
      cases fields with
      | nil => exact .nil _
      | cons field fields =>
          obtain ⟨value, more, u, rfl, hvalue, hmore⟩ := positional_of_next hnext hread
          rw [List.append_assoc, List.append_assoc, hpart.skipBlank_append hbefore] at hvalue
          obtain ⟨rfl, haccepts⟩ := hskim.1.accepts hpart allBlank_nil
            (ends_append hafter (ends_cons (by simp) rest)) hvalue
          exact .part haccepts (ordered_close hafter hmore)
  | @more part next parts before _ after texts hbefore hsame hafter hparts ih =>
      subst hsame
      rw [List.forall_mem_cons] at hformed
      cases fields with
      | nil => exact .nil _
      | cons field fields =>
          obtain ⟨value, more, u, rfl, hvalue, hmore⟩ := positional_of_next hnext hread
          rw [List.append_assoc, List.append_assoc, List.append_assoc, List.cons_append,
            hformed.1.skipBlank_append hbefore] at hvalue
          obtain ⟨rfl, haccepts⟩ := hskim.1.accepts hformed.1 allBlank_nil
            (ends_append hafter (ends_cons (by simp) _)) hvalue
          obtain ⟨c, tail, hskip, hopen⟩ :=
            exists_token_of_separated hparts (hformed.2 next List.mem_cons_self) (']' :: rest)
          have hcomma : Decoder.nextElement (index + 1 == 0)
              (after ++ ',' :: (texts ++ ']' :: rest)) =
                .ok (some (skipBlank (texts ++ ']' :: rest))) :=
            nextElement_comma hafter hskip hopen
          exact .part haccepts (ih hskim.2 (List.cons_ne_nil _ _) hformed.2 hcomma hmore)

/-- When a list of field values is read, its inner text is read up to the bracket that closes the
list. -/
theorem positional_of_accepts {fields : Fields types} {name : String} {text : List Char}
    {values : Values types}
    (haccepts : Accepts (Decoder.record name fields) ('[' :: (text ++ [']'])) values) :
    ∃ rest left after, fields.positional name fields.count 0 (text ++ ']' :: rest) =
      .ok (values, left) ∧ closePositional left = .ok after := by
  obtain ⟨blanks, rest, hblanks, -, hread⟩ := haccepts
  have hbracket : skipBlank (blanks ++ ('[' :: (text ++ [']']) ++ rest)) =
      '[' :: (text ++ ']' :: rest) := by
    simpa using skipBlank_append_token hblanks (show isBlank '[' = false by decide)
      (text ++ ']' :: rest)
  simp only [Decoder.record, hbracket] at hread
  split at hread
  · cases hread
  · next found left hpositional =>
    obtain ⟨after, hclose, hread⟩ := bind_eq_ok.1 hread
    obtain ⟨rfl, -⟩ := Prod.mk.inj (Except.ok.inj hread)
    exact ⟨rest, left, after, hpositional, hclose⟩

/-- When a list of field values is read, its parts are read by the fields in order. -/
theorem accepts_positions {fields : Fields types} (hskim : fields.Skim) {name : String}
    {parts : List (List Char)} {text : List Char} (hparts : Separated Eq parts text)
    (hformed : ∀ part ∈ parts, WellFormed part) {values : Values types}
    (haccepts : Accepts (Decoder.record name fields) ('[' :: (text ++ [']'])) values) :
    fields.Ordered parts values := by
  obtain ⟨rest, left, after, hpositional, -⟩ := positional_of_accepts haccepts
  cases parts with
  | nil =>
      cases hparts with
      | nil hinner => exact Fields.ordered_close hinner hpositional
  | cons part parts =>
      obtain ⟨c, tail, hskip, hopen⟩ :=
        exists_token_of_separated hparts (hformed part List.mem_cons_self) (']' :: rest)
      have hfirst : Decoder.nextElement (0 == 0) (text ++ ']' :: rest) =
          .ok (some (skipBlank (text ++ ']' :: rest))) := nextElement_first hskip hopen
      exact Fields.ordered_separated hskim hparts (List.cons_ne_nil _ _) hformed name _ rest
        hfirst hpositional

end Positions

section Focus

variable {types : List Type}

/-- The field stands at the index; the functions pick its part of the values and of a draft. -/
inductive Fields.At {α : Type} (field : Field α) :
    {types : List Type} → Fields types → Nat → (Values types → α) → (Draft types → Option α) → Prop
  | here {types : List Type} {fields : Fields types} :
      At field (.cons field fields) 0 (fun values => values.1) (fun draft => draft.1)
  | there {β : Type} {types : List Type} {other : Field β} {fields : Fields types} {index : Nat}
      {get : Values types → α} {slot : Draft types → Option α}
      (hat : At field fields index get slot) :
      At field (.cons other fields) (index + 1) (fun values => get values.2)
        (fun draft => slot draft.2)

variable {α : Type} {field : Field α} {fields : Fields types} {index : Nat}
  {get : Values types → α} {slot : Draft types → Option α}

theorem Fields.At.name_mem (hat : fields.At field index get slot) : field.name ∈ fields.names := by
  induction hat with
  | here => exact List.mem_cons_self
  | there _ ih => exact List.mem_cons_of_mem _ ih

theorem Fields.At.slot_blank (hat : fields.At field index get slot) : slot fields.blank = none := by
  induction hat with
  | here => rfl
  | there _ ih => exact ih

/-- The step: a member under the name of the field fills its slot, which has to be free, and any
other member leaves the slot alone. -/
theorem Fields.At.member (hat : fields.At field index get slot) (hnames : fields.names.Nodup)
    {key : String} {start final : Draft types} {s rest : List Char}
    (hread : fields.member key start s = .ok (final, rest)) :
    (key ≠ field.name ∧ slot final = slot start) ∨
      (key = field.name ∧ slot start = none ∧ ∃ t value, colon s = .ok t ∧
        field.read t = .ok (value, rest) ∧ slot final = some value) := by
  induction hat with
  | @here _ fields =>
      obtain ⟨filled, draft⟩ := start
      by_cases hkey : key = field.name
      · subst hkey
        cases filled with
        | some value =>
            rw [member_repeated] at hread
            cases hread
        | none =>
            rw [member_fresh] at hread
            obtain ⟨t, hcolon, hread⟩ := bind_eq_ok.1 hread
            obtain ⟨⟨value, u⟩, hvalue, hread⟩ := bind_eq_ok.1 hread
            obtain ⟨rfl, rfl⟩ := Prod.mk.inj (Except.ok.inj hread)
            exact Or.inr ⟨rfl, rfl, t, value, hcolon, hvalue, rfl⟩
      · rw [member_other field fields hkey] at hread
        obtain ⟨⟨other, left⟩, -, hread⟩ := bind_eq_ok.1 hread
        obtain ⟨rfl, -⟩ := Prod.mk.inj (Except.ok.inj hread)
        exact Or.inl ⟨hkey, rfl⟩
  | @there _ _ other fields _ _ _ hat ih =>
      rw [names, List.nodup_cons] at hnames
      obtain ⟨filled, draft⟩ := start
      by_cases hkey : key = other.name
      · subst hkey
        have hdiffers : other.name ≠ field.name := fun hsame => hnames.1 (hsame ▸ hat.name_mem)
        cases filled with
        | some value =>
            rw [member_repeated] at hread
            cases hread
        | none =>
            rw [member_fresh] at hread
            obtain ⟨t, -, hread⟩ := bind_eq_ok.1 hread
            obtain ⟨⟨value, u⟩, -, hread⟩ := bind_eq_ok.1 hread
            obtain ⟨rfl, -⟩ := Prod.mk.inj (Except.ok.inj hread)
            exact Or.inl ⟨hdiffers, rfl⟩
      · rw [member_other other fields hkey] at hread
        obtain ⟨⟨next, left⟩, hmember, hread⟩ := bind_eq_ok.1 hread
        obtain ⟨rfl, rfl⟩ := Prod.mk.inj (Except.ok.inj hread)
        exact ih hnames.2 hmember

/-- The values have what stands in the slot of the field, or else its default. -/
theorem Fields.At.complete (hat : fields.At field index get slot) {draft : Draft types}
    {values : Values types} (hcomplete : fields.complete draft = .ok values) :
    (slot draft).or field.default? = some (get values) := by
  induction hat with
  | here =>
      obtain ⟨filled, draft⟩ := draft
      rw [Fields.complete] at hcomplete
      split at hcomplete
      · cases hcomplete
      · next value hvalue =>
        obtain ⟨more, -, hmore⟩ := bind_eq_ok.1 hcomplete
        obtain rfl := Except.ok.inj hmore
        exact hvalue
  | there _ ih =>
      obtain ⟨filled, draft⟩ := draft
      rw [Fields.complete] at hcomplete
      split at hcomplete
      · cases hcomplete
      · obtain ⟨more, hmore, hvalues⟩ := bind_eq_ok.1 hcomplete
        obtain rfl := Except.ok.inj hvalues
        exact ih hmore

/-- The run: the slot is filled by the only member under the name of the field, or not at all. -/
theorem Fields.At.absorbs (hat : fields.At field index get slot) (hnames : fields.names.Nodup)
    {members : List (String × List Char)} {start final : Draft types}
    (habsorbs : fields.Absorbs start members final) :
    (field.name ∉ members.map Prod.fst ∧ slot final = slot start) ∨
      (slot start = none ∧ (members.map Prod.fst).count field.name = 1 ∧
        ∃ value, slot final = some value ∧
          ∀ text, (field.name, text) ∈ members → Accepts field.read text value) := by
  induction habsorbs with
  | nil draft => exact Or.inl ⟨by simp, rfl⟩
  | @cons start next final member members before after rest hbefore hafter hends hread _ ih =>
      obtain ⟨key, part⟩ := member
      rcases hat.member hnames hread with
        ⟨hkey, hslot⟩ | ⟨rfl, hfree, t, value, hcolon, hvalue, hslot⟩
      · rw [hslot] at ih
        refine ih.imp ?_ ?_
        · rintro ⟨hnone, hfinal⟩
          exact ⟨by simp [Ne.symm hkey, hnone], hfinal⟩
        · rintro ⟨hfree, hcount, value, hfinal, haccepts⟩
          refine ⟨hfree, by simp [hkey, hcount], value, hfinal, fun text htext => ?_⟩
          rcases List.mem_cons.1 htext with hsame | htext
          · exact absurd (Prod.mk.inj hsame).1.symm hkey
          · exact haccepts text htext
      · rw [colon_append hbefore] at hcolon
        obtain rfl := Except.ok.inj hcolon
        rcases ih with ⟨hnone, hfinal⟩ | ⟨hfree, -⟩
        · refine Or.inr ⟨hfree, ?_, value, hfinal.trans hslot, fun text htext => ?_⟩
          · simp [List.count_eq_zero.2 hnone]
          · rcases List.mem_cons.1 htext with hsame | htext
            · obtain rfl := (Prod.mk.inj hsame).2
              exact ⟨after, rest, hafter, hends, hvalue⟩
            · exact absurd (List.mem_map_of_mem htext) hnone
        · rw [hslot] at hfree
          cases hfree

/-- In an object that is read no field stands twice, a field that does not stand there has a
default, and what stands there is read as its value. -/
theorem Fields.At.of_object (hat : fields.At field index get slot) (hnames : fields.names.Nodup)
    (hskim : fields.Skim) {name : String} {members : List (String × List Char)} {text : List Char}
    (hmembers : MembersText members text) (hformed : ∀ member ∈ members, WellFormed member.2)
    {values : Values types}
    (haccepts : Accepts (Decoder.record name fields) ('\x7b' :: (text ++ ['\x7d'])) values) :
    (members.map Prod.fst).count field.name ≤ 1 ∧
      (field.name ∉ members.map Prod.fst → field.default? ≠ none) ∧
      ∀ text, (field.name, text) ∈ members → Accepts field.read text (get values) := by
  obtain ⟨draft, habsorbs, hcomplete⟩ := accepts_object hskim hmembers hformed haccepts
  have hvalue := hat.complete hcomplete
  rcases hat.absorbs hnames habsorbs with ⟨hnone, hslot⟩ | ⟨-, hcount, value, hslot, hread⟩
  · rw [hslot, hat.slot_blank] at hvalue
    refine ⟨by simp [List.count_eq_zero.2 hnone], fun _ hdefault => ?_, fun text htext => ?_⟩
    · simp [hdefault] at hvalue
    · exact absurd (List.mem_map_of_mem htext) hnone
  · rw [hslot] at hvalue
    obtain rfl : value = get values := by simpa using hvalue
    refine ⟨by simp [hcount], fun hnone => ?_, hread⟩
    rw [List.count_eq_zero.2 hnone] at hcount
    cases hcount

/-- In a list of field values that is read, the part for a field is read as its value. -/
theorem Fields.At.of_ordered (hat : fields.At field index get slot) {parts : List (List Char)}
    {values : Values types} (hordered : fields.Ordered parts values) {part : List Char}
    (hpart : parts[index]? = some part) : Accepts field.read part (get values) := by
  induction hat generalizing parts with
  | here =>
      cases hordered with
      | part haccepts _ =>
          obtain rfl := Option.some.inj hpart
          exact haccepts
      | default => cases hpart
  | there _ ih =>
      cases hordered with
      | part _ hrest => exact ih hrest hpart
      | default => simp at hpart

end Focus

end OpeningTimes.Json

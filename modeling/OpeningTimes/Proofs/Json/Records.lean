import OpeningTimes.Proofs.Json.Lists
import OpeningTimes.Proofs.Json.WellFormed

/-!
Written records.  A record may be written as an object, in which its fields stand in any order,
fields at their defaults may be left out and members of other names may stand in between, or as
the list of its field values, which may stop where only defaults would follow.
-/

namespace OpeningTimes.Json

/-- The texts that may stand as a value. -/
abbrev Texts := List Char → Prop

/-- A field of a record that is to be written: its name, the texts that write its value, and
whether it may be left out. -/
structure Slot where
  name : String
  writes : Texts
  omissible : Prop

/-- The members that may stand in an object that writes the fields: a field with a text that writes
it, and any value under a name that is no field's. -/
inductive Allowed (slots : List Slot) : String × List Char → Prop
  | field {slot : Slot} {text : List Char} (hslot : slot ∈ slots) (htext : slot.writes text) :
      Allowed slots (slot.name, text)
  | foreign {key : String} {text : List Char} (hkey : key ∉ slots.map Slot.name)
      (htext : WellFormed text) : Allowed slots (key, text)

/-- Members, which are keys with the texts of their values, in any layout and with any spelling of
the keys. -/
abbrev MembersText : List (String × List Char) → Texts :=
  Separated (MemberText Spelled Eq)

/-- The text writes the fields: as an object in which no field stands twice and every field stands
that may not be left out, or as the list of the first fields if the others may be left out. -/
inductive RecordText (slots : List Slot) : Texts
  | object {members : List (String × List Char)} {text : List Char}
      (hallowed : ∀ member ∈ members, Allowed slots member)
      (honce : (members.map Prod.fst).Pairwise fun key other =>
        key ∈ slots.map Slot.name → key ≠ other)
      (homitted : ∀ slot ∈ slots, slot.name ∈ members.map Prod.fst ∨ slot.omissible)
      (hmembers : MembersText members text) : RecordText slots ('\x7b' :: (text ++ ['\x7d']))
  | list {shown omitted : List Slot} {text : List Char} (hslots : slots = shown ++ omitted)
      (homitted : ∀ slot ∈ omitted, slot.omissible) (hshown : Separated Slot.writes shown text) :
      RecordText slots ('[' :: (text ++ [']']))

/-- The fields of a record read what is written for them as these values, and take these values
where nothing is written. -/
inductive Fields.Fits : {types : List Type} → Fields types → List Slot → Values types → Prop
  | nil : Fits .nil [] ()
  | cons {α : Type} {types : List Type} {field : Field α} {fields : Fields types} {slot : Slot}
      {slots : List Slot} {value : α} {values : Values types} (hname : slot.name = field.name)
      (hreads : ∀ text, slot.writes text → Reads field.read text value)
      (hdefault : slot.omissible → field.default? = some value)
      (hrest : Fits fields slots values) :
      Fits (.cons field fields) (slot :: slots) (value, values)

def Fields.names : {types : List Type} → Fields types → List String
  | [], .nil => []
  | _ :: _, .cons field fields => field.name :: fields.names

variable {types : List Type}

theorem Fields.Fits.names_eq {fields : Fields types} {slots : List Slot} {values : Values types}
    (hfits : fields.Fits slots values) : fields.names = slots.map Slot.name := by
  induction hfits with
  | nil => rfl
  | cons hname _ _ _ ih => rw [Fields.names, ih, List.map_cons, hname]

/-- The draft in which the fields of these names have been read. -/
def Fields.draft : {types : List Type} → Fields types → Values types → List String → Draft types
  | [], .nil, _, _ => ()
  | _ :: _, .cons field fields, (value, values), seen =>
      (if field.name ∈ seen then some value else none, fields.draft values seen)

theorem Fields.draft_cons {α : Type} (field : Field α) (fields : Fields types) (value : α)
    (values : Values types) (seen : List String) :
    (Fields.cons field fields).draft (value, values) seen =
      (if field.name ∈ seen then some value else none, fields.draft values seen) :=
  rfl

theorem Fields.draft_nil (fields : Fields types) (values : Values types) :
    fields.draft values [] = fields.blank := by
  induction fields with
  | nil => rfl
  | cons field fields ih =>
      obtain ⟨value, values⟩ := values
      rw [draft_cons, if_neg List.not_mem_nil, ih]
      rfl

/-- Only the names of fields count. -/
theorem Fields.Fits.draft_foreign {fields : Fields types} {slots : List Slot}
    {values : Values types} (hfits : fields.Fits slots values) {key : String}
    (hkey : key ∉ slots.map Slot.name)
    (seen : List String) : fields.draft values (key :: seen) = fields.draft values seen := by
  induction hfits with
  | nil => rfl
  | cons hname _ _ _ ih =>
      rw [List.map_cons, List.mem_cons, not_or, hname] at hkey
      simp only [draft_cons, ih hkey.2, List.mem_cons, Ne.symm hkey.1, false_or]
      rfl

section Objects

/-- The member takes one draft to the other, whatever blanks stand around its value. -/
def Fields.Takes (fields : Fields types) (start : Draft types) (member : String × List Char)
    (final : Draft types) : Prop :=
  ∀ before after rest, AllBlank before → AllBlank after → Ends rest →
    fields.member member.1 start (before ++ ':' :: (after ++ (member.2 ++ rest))) =
      .ok (final, rest)

/-- A member for a field that has not been read fills it. -/
theorem takes_fresh {α : Type} {field : Field α} {fields : Fields types} {text : List Char}
    {value : α} (hreads : Reads field.read text value) (draft : Draft types) :
    (Fields.cons field fields).Takes (none, draft) (field.name, text) (some value, draft) := by
  intro before after rest hbefore hafter hends
  have hread := hreads.reads after rest hafter hends
  simp [Fields.member_fresh, colon_append hbefore, hread, bind, Except.bind]

/-- A member of another name leaves a field alone. -/
theorem Fields.Takes.cons_other {α : Type} {field : Field α} {fields : Fields types}
    {start final : Draft types} {member : String × List Char}
    (htakes : fields.Takes start member final) (hother : member.1 ≠ field.name)
    (slot : Option α) : (Fields.cons field fields).Takes (slot, start) member (slot, final) := by
  intro before after rest hbefore hafter hends
  have htaken := htakes before after rest hbefore hafter hends
  rw [member_other field fields hother]
  simp [htaken, bind, Except.bind]

/-- A value under a name that is no field's is passed over. -/
theorem Fields.Fits.takes_foreign {fields : Fields types} {slots : List Slot}
    {values : Values types} (hfits : fields.Fits slots values) {key : String}
    (hkey : key ∉ slots.map Slot.name) {text : List Char} (htext : WellFormed text)
    (start : Draft types) : fields.Takes start (key, text) start := by
  induction hfits with
  | nil =>
      intro before after rest hbefore hafter hends
      have hskip := htext.skipValue hafter hends
      change Fields.nil.member key () _ = .ok ((), rest)
      simp [member_unknown, colon_append hbefore, hskip, bind, Except.bind]
  | cons hname _ _ _ ih =>
      obtain ⟨slot, start⟩ := start
      rw [List.map_cons, List.mem_cons, not_or, hname] at hkey
      exact (ih hkey.2 start).cons_other hkey.1 slot

/-- A field that has not been read is read, wherever it stands among the members. -/
theorem Fields.Fits.takes_field {fields : Fields types} {slots : List Slot}
    {values : Values types} (hfits : fields.Fits slots values)
    (hnames : (slots.map Slot.name).Nodup) {slot : Slot} (hslot : slot ∈ slots)
    {text : List Char} (htext : slot.writes text) {seen : List String}
    (hfresh : slot.name ∉ seen) :
    fields.Takes (fields.draft values seen) (slot.name, text)
      (fields.draft values (slot.name :: seen)) := by
  induction hfits with
  | nil => exact absurd hslot List.not_mem_nil
  | @cons _ _ field fields first slots value values hname hreads _ hrest ih =>
      rw [List.map_cons, List.nodup_cons] at hnames
      rcases List.mem_cons.1 hslot with rfl | hslot
      · rw [draft_cons, draft_cons, hrest.draft_foreign hnames.1, hname,
          if_pos List.mem_cons_self, if_neg (hname ▸ hfresh)]
        exact takes_fresh (hreads text htext) _
      · have hother : slot.name ≠ field.name := by
          intro hsame
          exact hnames.1 (hname ▸ hsame ▸ List.mem_map_of_mem hslot)
        simp only [draft_cons, List.mem_cons, Ne.symm hother, false_or]
        exact (ih hnames.2 hslot).cons_other hother _

/-- The step: an allowed member is read, if it is no second one for its field. -/
theorem Fields.Fits.takes {fields : Fields types} {slots : List Slot} {values : Values types}
    (hfits : fields.Fits slots values) (hnames : (slots.map Slot.name).Nodup)
    {member : String × List Char} (hallowed : Allowed slots member) {seen : List String}
    (hfresh : member.1 ∈ slots.map Slot.name → member.1 ∉ seen) :
    fields.Takes (fields.draft values seen) member (fields.draft values (member.1 :: seen)) := by
  cases hallowed with
  | field hslot htext =>
      exact hfits.takes_field hnames hslot htext (hfresh (List.mem_map_of_mem hslot))
  | foreign hkey htext =>
      rw [hfits.draft_foreign hkey]
      exact hfits.takes_foreign hkey htext _

/-- The members one after the other take one draft to the other. -/
inductive Fields.Fills (fields : Fields types) :
    Draft types → List (String × List Char) → Draft types → Prop
  | nil (draft : Draft types) : Fills fields draft [] draft
  | cons {start next final : Draft types} {member : String × List Char}
      {members : List (String × List Char)} (htakes : fields.Takes start member next)
      (hfills : Fills fields next members final) : Fills fields start (member :: members) final

/-- The run: all members are read, and afterwards so are the fields that they name. -/
theorem Fields.Fits.fills {fields : Fields types} {slots : List Slot} {values : Values types}
    (hfits : fields.Fits slots values) (hnames : (slots.map Slot.name).Nodup)
    {members : List (String × List Char)} (hallowed : ∀ member ∈ members, Allowed slots member)
    (honce : (members.map Prod.fst).Pairwise fun key other =>
      key ∈ slots.map Slot.name → key ≠ other)
    {seen : List String}
    (hfresh : ∀ key ∈ members.map Prod.fst, key ∈ slots.map Slot.name → key ∉ seen) :
    fields.Fills (fields.draft values seen) members
      (fields.draft values ((members.map Prod.fst).reverse ++ seen)) := by
  induction members generalizing seen with
  | nil => exact .nil _
  | cons member members ih =>
      rw [List.map_cons, List.pairwise_cons] at honce
      rw [List.map_cons, List.forall_mem_cons] at hfresh
      have hrest : ∀ key ∈ members.map Prod.fst, key ∈ slots.map Slot.name →
          key ∉ member.1 :: seen := by
        intro key hkey hfield hseen
        rcases List.mem_cons.1 hseen with rfl | hseen
        · exact honce.1 member.1 hkey hfield rfl
        · exact hfresh.2 key hkey hfield hseen
      have hfills := ih (fun other hother => hallowed other (List.mem_cons_of_mem member hother))
        honce.2 hrest
      rw [List.map_cons, List.reverse_cons, List.append_assoc, List.singleton_append]
      exact .cons (hfits.takes hnames (hallowed member List.mem_cons_self) hfresh.1) hfills

/-- A draft is complete when every field has been read or may be left out. -/
theorem Fields.Fits.complete {fields : Fields types} {slots : List Slot} {values : Values types}
    (hfits : fields.Fits slots values) {seen : List String}
    (hseen : ∀ slot ∈ slots, slot.name ∈ seen ∨ slot.omissible) :
    fields.complete (fields.draft values seen) = .ok values := by
  induction hfits with
  | nil => rfl
  | @cons _ _ field fields slot slots value values hname _ hdefault _ ih =>
      rw [List.forall_mem_cons, hname] at hseen
      have hvalue : (if field.name ∈ seen then some value else none).or field.default?
          = some value := by
        rcases hseen.1 with hread | homissible
        · rw [if_pos hread]
          rfl
        · rw [hdefault homissible]
          split <;> rfl
      simp only [draft_cons, Fields.complete, hvalue, ih hseen.2, bind, Except.bind]

theorem nextKey_first {s tail : List Char} (hs : skipBlank s = '"' :: tail) :
    nextKey true s = .ok (some tail) := by
  simp [nextKey, hs]

theorem nextKey_comma {blanks s tail : List Char} (hblanks : AllBlank blanks)
    (hs : skipBlank s = '"' :: tail) : nextKey false (blanks ++ ',' :: s) = .ok (some tail) := by
  have hcomma := skipBlank_append_token hblanks (show isBlank ',' = false by decide) s
  simp [nextKey, hcomma, hs]

theorem nextKey_close (first : Bool) {blanks : List Char} (hblanks : AllBlank blanks)
    (rest : List Char) : nextKey first (blanks ++ '\x7d' :: rest) = .ok none := by
  have hclose := skipBlank_append_token hblanks (show isBlank '\x7d' = false by decide) rest
  simp [nextKey, hclose]

theorem closeObject_append {blanks : List Char} (hblanks : AllBlank blanks) (rest : List Char) :
    Decoder.closeObject (blanks ++ '\x7d' :: rest) = rest := by
  have hclose := skipBlank_append_token hblanks (show isBlank '\x7d' = false by decide) rest
  simp [Decoder.closeObject, hclose]

theorem membersIn_close {fields : Fields types} {first : Bool} {s : List Char}
    (hclose : nextKey first s = .ok none) (rounds : Nat) (draft : Draft types) :
    membersIn fields (rounds + 1) first draft s = .ok (draft, s) := by
  simp [membersIn, hclose, bind, Except.bind]

/-- Reading one member and then the others. -/
theorem membersIn_next {fields : Fields types} {start next : Draft types}
    {member : String × List Char} {text : List Char} (htakes : fields.Takes start member next)
    (htext : MemberText Spelled Eq member text) {first : Bool}
    {s tail rest : List Char} (htail : text ++ rest = '"' :: tail) (hends : Ends rest)
    (hnext : nextKey first s = .ok (some tail)) (rounds : Nat) :
    membersIn fields (rounds + 1) first start s = membersIn fields rounds false next rest := by
  cases htext with
  | @intro key text name before after _ hname hbefore hafter hsame =>
      subst hsame
      obtain ⟨pieces, hpieces, rfl⟩ := hname
      have htaken := htakes before after rest hbefore hafter hends
      obtain rfl : pieces.flatten ++ '"' ::
          (before ++ ':' :: (after ++ (text ++ rest))) = tail := by
        simpa using htail
      simp [membersIn, hnext, stringTail_of_spelled hpieces, htaken, bind, Except.bind]

/-- Reading the members from the first one on, however it was found. -/
theorem membersIn_separated {fields : Fields types} {members : List (String × List Char)}
    {text : List Char} (hmembers : MembersText members text) (hne : members ≠ [])
    {start final : Draft types} (hfills : fields.Fills start members final)
    (rest : List Char) {rounds : Nat} (hrounds : members.length < rounds)
    {first : Bool} {s tail : List Char}
    (htail : skipBlank (text ++ '\x7d' :: rest) = '"' :: tail)
    (hnext : nextKey first s = .ok (some tail)) :
    ∃ blanks, AllBlank blanks ∧
      membersIn fields rounds first start s = .ok (final, blanks ++ '\x7d' :: rest) := by
  induction hmembers generalizing start rounds first s tail with
  | nil hblanks => exact absurd rfl hne
  | @last member before text after hbefore htext hafter =>
      obtain ⟨more, rfl⟩ : ∃ more, rounds = more + 1 + 1 :=
        ⟨rounds - 2, by simp at hrounds; omega⟩
      rw [List.append_assoc, List.append_assoc, htext.skipBlank_append Spelled.head? hbefore]
        at htail
      have hends : Ends (after ++ '\x7d' :: rest) :=
        ends_append hafter (ends_cons (by simp) rest)
      cases hfills with
      | cons htakes hfills =>
          cases hfills
          refine ⟨after, hafter, ?_⟩
          rw [membersIn_next htakes htext htail hends hnext,
            membersIn_close (nextKey_close false hafter rest)]
  | @more member next members before text after texts hbefore htext hafter hmembers ih =>
      obtain ⟨more, rfl⟩ : ∃ more, rounds = more + 1 :=
        ⟨rounds - 1, by simp at hrounds; omega⟩
      rw [List.append_assoc, List.append_assoc, List.append_assoc, List.cons_append,
        htext.skipBlank_append Spelled.head? hbefore] at htail
      have hends : Ends (after ++ ',' :: (texts ++ '\x7d' :: rest)) :=
        ends_append hafter (ends_cons (by simp) _)
      obtain ⟨tail, hskip⟩ := hmembers.skipBlank_member Spelled.head? ('\x7d' :: rest)
      cases hfills with
      | cons htakes hfills =>
          rw [membersIn_next htakes htext htail hends hnext]
          exact ih (List.cons_ne_nil _ _) hfills (Nat.lt_of_succ_lt_succ hrounds) hskip
            (nextKey_comma hafter hskip)

/-- Objects are read up to their closing brace whatever blanks stand around their members, as long
as the members fill a draft that is complete. -/
theorem keyed_append {fields : Fields types} {members : List (String × List Char)}
    {text : List Char} (hmembers : MembersText members text) {draft : Draft types}
    (hfills : fields.Fills fields.blank members draft) {values : Values types}
    (hcomplete : fields.complete draft = .ok values) (rest : List Char) :
    ∃ blanks, AllBlank blanks ∧
      keyed fields (text ++ '\x7d' :: rest) = .ok (values, blanks ++ '\x7d' :: rest) := by
  have hread : ∃ blanks, AllBlank blanks ∧
      membersIn fields ((text ++ '\x7d' :: rest).length + 1) true fields.blank
        (text ++ '\x7d' :: rest) = .ok (draft, blanks ++ '\x7d' :: rest) := by
    cases members with
    | nil =>
        cases hfills
        cases hmembers with
        | nil hblanks =>
            exact ⟨text, hblanks, membersIn_close (nextKey_close true hblanks rest) _ _⟩
    | cons member members =>
        obtain ⟨tail, hskip⟩ := hmembers.skipBlank_member Spelled.head? ('\x7d' :: rest)
        have hlength := hmembers.length_le
        refine membersIn_separated hmembers (List.cons_ne_nil member members) hfills rest ?_
          hskip (nextKey_first hskip)
        simp only [List.length_append, List.length_cons] at hlength ⊢
        omega
  obtain ⟨blanks, hblanks, hread⟩ := hread
  refine ⟨blanks, hblanks, ?_⟩
  simp only [keyed, hread, bind, Except.bind, hcomplete]

end Objects

section Positions

/-- Where the list closes, the remaining fields take their defaults. -/
theorem Fields.Fits.positional_close {fields : Fields types} {slots : List Slot}
    {values : Values types} (hfits : fields.Fits slots values)
    (homitted : ∀ slot ∈ slots, slot.omissible) (record : String) (total index : Nat)
    {blanks : List Char} (hblanks : AllBlank blanks) (rest : List Char) :
    fields.positional record total index (blanks ++ ']' :: rest) =
      .ok (values, blanks ++ ']' :: rest) := by
  induction hfits generalizing index with
  | nil => rfl
  | cons _ _ hdefault _ ih =>
      rw [List.forall_mem_cons] at homitted
      simp only [Fields.positional, nextElement_close _ hblanks rest, hdefault homitted.1,
        ih homitted.2, bind, Except.bind]

/-- Reading the field values from the first one on, however it was found. -/
theorem Fields.Fits.positional_separated {fields : Fields types} {values : Values types}
    {shown omitted : List Slot} (hfits : fields.Fits (shown ++ omitted) values) {text : List Char}
    (hshown : Separated Slot.writes shown text) (hne : shown ≠ [])
    (homitted : ∀ slot ∈ omitted, slot.omissible) (record : String)
    (total : Nat) (rest : List Char) {index : Nat} {s : List Char}
    (hnext : Decoder.nextElement (index == 0) s = .ok (some (skipBlank (text ++ ']' :: rest)))) :
    ∃ blanks, AllBlank blanks ∧
      fields.positional record total index s = .ok (values, blanks ++ ']' :: rest) := by
  induction hshown generalizing types fields values index s with
  | nil _ => exact absurd rfl hne
  | @last slot before text after hbefore htext hafter =>
      cases hfits with
      | cons _ hreads _ hrest =>
          have htoken := hreads text htext
          have hread := htoken.reads [] (after ++ ']' :: rest) allBlank_nil
            (ends_append hafter (ends_cons (by simp) rest))
          rw [List.append_assoc, List.append_assoc, skipBlank_append hbefore,
            htoken.opens.skipBlank_append] at hnext
          rw [List.nil_append] at hread
          refine ⟨after, hafter, ?_⟩
          simp only [Fields.positional, hnext, hread, bind, Except.bind,
            hrest.positional_close homitted record total (index + 1) hafter rest]
  | @more slot next slots before text after texts hbefore htext hafter hshown ih =>
      cases hfits with
      | cons _ hreads _ hrest =>
          have htoken := hreads text htext
          have hread := htoken.reads [] (after ++ ',' :: (texts ++ ']' :: rest)) allBlank_nil
            (ends_append hafter (ends_cons (by simp) _))
          rw [List.append_assoc, List.append_assoc, List.append_assoc, List.cons_append,
            skipBlank_append hbefore, htoken.opens.skipBlank_append] at hnext
          rw [List.nil_append] at hread
          have hopens : ∀ part, next.writes part → Opens part := by
            cases hrest with
            | cons _ hreads _ _ => exact fun part hpart => (hreads part hpart).opens
          obtain ⟨c, tail, hskip, hopen⟩ := hshown.skipBlank_append hopens (']' :: rest)
          have hcomma : Decoder.nextElement (index + 1 == 0)
              (after ++ ',' :: (texts ++ ']' :: rest)) =
                .ok (some (skipBlank (texts ++ ']' :: rest))) :=
            nextElement_comma hafter hskip hopen
          obtain ⟨blanks, hblanks, hvalues⟩ := ih hrest (List.cons_ne_nil _ _) hcomma
          refine ⟨blanks, hblanks, ?_⟩
          simp only [Fields.positional, hnext, hread, hvalues, bind, Except.bind]

theorem closePositional_append {blanks : List Char} (hblanks : AllBlank blanks)
    (rest : List Char) : closePositional (blanks ++ ']' :: rest) = .ok rest := by
  have hclose := skipBlank_append_token hblanks (show isBlank ']' = false by decide) rest
  simp [closePositional, hclose]

/-- Lists of field values are read up to their closing bracket, wherever they stop. -/
theorem Fields.Fits.positional_append {fields : Fields types} {values : Values types}
    {shown omitted : List Slot} (hfits : fields.Fits (shown ++ omitted) values) {text : List Char}
    (hshown : Separated Slot.writes shown text) (homitted : ∀ slot ∈ omitted, slot.omissible)
    (record : String) (total : Nat) (rest : List Char) :
    ∃ blanks, AllBlank blanks ∧
      fields.positional record total 0 (text ++ ']' :: rest) =
        .ok (values, blanks ++ ']' :: rest) := by
  cases shown with
  | nil =>
      cases hshown with
      | nil hblanks =>
          exact ⟨text, hblanks, hfits.positional_close homitted record total 0 hblanks rest⟩
  | cons slot slots =>
      have hopens : ∀ part, slot.writes part → Opens part := by
        cases hfits with
        | cons _ hreads _ _ => exact fun part hpart => (hreads part hpart).opens
      obtain ⟨c, tail, hskip, hopen⟩ := hshown.skipBlank_append hopens (']' :: rest)
      exact hfits.positional_separated hshown (List.cons_ne_nil slot slots) homitted record total
        rest (nextElement_first hskip hopen)

end Positions

theorem record_skipBlank (name : String) (fields : Fields types) (s : List Char) :
    Decoder.record name fields s = Decoder.record name fields (skipBlank s) := by
  rw [Decoder.record, Decoder.record, skipBlank_skipBlank]

/-- A record is read from an object with members that fill a draft that is complete. -/
theorem reads_object (name : String) {fields : Fields types} {members : List (String × List Char)}
    {text : List Char} (hmembers : MembersText members text) {draft : Draft types}
    (hfills : fields.Fills fields.blank members draft) {values : Values types}
    (hcomplete : fields.complete draft = .ok values) :
    Reads (Decoder.record name fields) ('\x7b' :: (text ++ ['\x7d'])) values := by
  have hopens : Opens ('\x7b' :: (text ++ ['\x7d'])) := ⟨'\x7b', _, rfl, by decide, by decide⟩
  refine Reads.of_skipBlank hopens (record_skipBlank name fields) fun rest _ => ?_
  obtain ⟨blanks, hblanks, hkeyed⟩ := keyed_append hmembers hfills hcomplete rest
  rw [Decoder.record, hopens.skipBlank_append, List.cons_append, List.append_assoc,
    List.singleton_append]
  simp only [hkeyed, closeObject_append hblanks]

/-- A record is read from the list of its first field values, if the others may be left out. -/
theorem reads_positions (name : String) {fields : Fields types} {values : Values types}
    {shown omitted : List Slot} (hfits : fields.Fits (shown ++ omitted) values) {text : List Char}
    (hshown : Separated Slot.writes shown text) (homitted : ∀ slot ∈ omitted, slot.omissible) :
    Reads (Decoder.record name fields) ('[' :: (text ++ [']'])) values := by
  have hopens : Opens ('[' :: (text ++ [']'])) := ⟨'[', _, rfl, by decide, by decide⟩
  refine Reads.of_skipBlank hopens (record_skipBlank name fields) fun rest _ => ?_
  obtain ⟨blanks, hblanks, hpositional⟩ :=
    hfits.positional_append hshown homitted name fields.count rest
  rw [Decoder.record, hopens.skipBlank_append, List.cons_append, List.append_assoc,
    List.singleton_append]
  simp only [hpositional, closePositional_append hblanks, bind, Except.bind]

/-- Records are read from every text that writes their fields. -/
theorem reads_recordText (name : String) {fields : Fields types} {slots : List Slot}
    {values : Values types} (hfits : fields.Fits slots values)
    (hnames : fields.names.Nodup) {text : List Char} (htext : RecordText slots text) :
    Reads (Decoder.record name fields) text values := by
  cases htext with
  | @object members text hallowed honce homitted hmembers =>
      rw [hfits.names_eq] at hnames
      have hfills := hfits.fills hnames hallowed honce (fun _ _ _ => List.not_mem_nil)
      rw [Fields.draft_nil, List.append_nil] at hfills
      have hcomplete : fields.complete (fields.draft values (members.map Prod.fst).reverse)
          = .ok values :=
        hfits.complete fun slot hslot => (homitted slot hslot).imp_left List.mem_reverse.2
      exact reads_object name hmembers hfills hcomplete
  | list hslots homitted hshown =>
      subst hslots
      exact reads_positions name hfits hshown homitted

end OpeningTimes.Json

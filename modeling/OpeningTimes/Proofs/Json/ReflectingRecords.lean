import OpeningTimes.Proofs.Json.Reflecting

/-!
Records that reflect reading.  Whether an object or a list of field values is read as a record
depends on each of its fields alone, so changes that every field reflects are reflected by the
record.
-/

namespace OpeningTimes.Json

variable {types others : List Type}

/-- Fields of the same names, of which the second ones read what was changed to something that the
first ones read. -/
inductive Fields.Reflects : {types others : List Type} → Fields types → List (String × Change) →
    Fields others → Prop
  | nil : Reflects .nil [] .nil
  | cons {α β : Type} {types others : List Type} {field : Field α} {other : Field β}
      {fields : Fields types} {more : Fields others} {change : Change}
      {slots : List (String × Change)} (hname : other.name = field.name)
      (hreflects : Json.Reflects change field.read other.read)
      (hdefault : field.default? ≠ none → other.default? ≠ none)
      (hrest : Reflects fields slots more) :
      Reflects (.cons field fields) ((field.name, change) :: slots) (.cons other more)

/-- Which fields have been read. -/
def Draft.filled : {types : List Type} → Draft types → List Bool
  | [], _ => []
  | _ :: _, (slot, draft) => slot.isSome :: Draft.filled draft

namespace Fields.Reflects

variable {fields : Fields types} {slots : List (String × Change)} {more : Fields others}

theorem skim (hreflects : fields.Reflects slots more) : fields.Skim := by
  induction hreflects with
  | nil => exact trivial
  | cons _ hreflects _ _ ih => exact ⟨hreflects.skims, ih⟩

theorem filled_blank (hreflects : fields.Reflects slots more) :
    Draft.filled more.blank = Draft.filled fields.blank := by
  induction hreflects with
  | nil => rfl
  | cons _ _ _ _ ih => exact congrArg (false :: ·) ih

theorem formed_member (hreflects : fields.Reflects slots more) {key : String}
    {old new : List Char} (hchange : MemberChange slots key old new) : WellFormed new := by
  induction hreflects with
  | nil => exact hchange.2
  | cons _ hreflects _ _ ih =>
      rw [MemberChange] at hchange
      split at hchange
      · exact hreflects.formed old new hchange
      · exact ih hchange

theorem formed_parts (hreflects : fields.Reflects slots more) {olds news : List (List Char)}
    (heach : PartsChange slots olds news) : ∀ part ∈ news, WellFormed part := by
  induction hreflects generalizing olds news with
  | nil =>
      cases heach
      simp
  | cons _ hreflects _ _ ih =>
      cases heach with
      | nil => simp
      | cons hchange hrest =>
          exact List.forall_mem_cons.2 ⟨hreflects.formed _ _ hchange, ih hrest⟩

/-- The step: where a changed member is read, the member before is read into a draft with the same
fields. -/
theorem member (hreflects : fields.Reflects slots more) {key : String} {old new : List Char}
    (hchange : MemberChange slots key old new) {before after rest : List Char}
    (hbefore : AllBlank before) (hafter : AllBlank after) (hends : Ends rest)
    {start next : Draft types} {start' : Draft others}
    (hread : fields.member key start (before ++ ':' :: (after ++ (new ++ rest))) =
      .ok (next, rest))
    (hfilled : Draft.filled start' = Draft.filled start) :
    ∃ next', more.Takes start' (key, old) next' ∧ Draft.filled next' = Draft.filled next := by
  induction hreflects with
  | nil =>
      obtain ⟨rfl, hformed⟩ := hchange
      have htakes : Fields.nil.Takes () (key, old) () := Fits.nil.takes_foreign (by simp) hformed ()
      exact ⟨(), htakes, rfl⟩
  | @cons _ _ _ _ field other fields more change slots hname hreflects hdefault _ ih =>
      obtain ⟨slot, start⟩ := start
      obtain ⟨slot', start'⟩ := start'
      obtain ⟨hslot, hdraft⟩ := List.cons.inj hfilled
      rw [MemberChange] at hchange
      by_cases hkey : key = field.name
      · subst hkey
        rw [if_pos rfl] at hchange
        cases slot with
        | some value =>
            rw [member_repeated] at hread
            cases hread
        | none =>
            obtain rfl : slot' = none := by simpa using hslot
            rw [member_fresh] at hread
            obtain ⟨t, hcolon, hread⟩ := bind_eq_ok.1 hread
            rw [colon_append hbefore] at hcolon
            obtain rfl := Except.ok.inj hcolon
            obtain ⟨⟨value, u⟩, hvalue, hread⟩ := bind_eq_ok.1 hread
            obtain ⟨rfl, rfl⟩ := Prod.mk.inj (Except.ok.inj hread)
            obtain ⟨found, hfound⟩ := hreflects.reflects old new value hchange
              ⟨after, _, hafter, hends, hvalue⟩
            refine ⟨(some found, start'), hname ▸ takes_fresh hfound start', ?_⟩
            exact congrArg (true :: ·) hdraft
      · rw [if_neg hkey] at hchange
        rw [member_other field fields hkey] at hread
        obtain ⟨⟨draft, u⟩, hmember, hread⟩ := bind_eq_ok.1 hread
        obtain ⟨rfl, rfl⟩ := Prod.mk.inj (Except.ok.inj hread)
        obtain ⟨next', htakes, hnext⟩ := ih hchange hmember hdraft
        refine ⟨(slot', next'), htakes.cons_other (hname ▸ hkey) slot', ?_⟩
        exact congrArg₂ (· :: ·) hslot hnext

/-- The run: where changed members are read, so are the members before. -/
theorem fills (hreflects : fields.Reflects slots more) {olds news : List (String × List Char)}
    (heach : List.Forall₂
      (fun old new => old.1 = new.1 ∧ MemberChange slots new.1 old.2 new.2) olds news)
    {start final : Draft types} (habsorbs : fields.Absorbs start news final)
    {start' : Draft others} (hfilled : Draft.filled start' = Draft.filled start) :
    ∃ final', more.Fills start' olds final' ∧ Draft.filled final' = Draft.filled final := by
  induction habsorbs generalizing olds start' with
  | nil =>
      cases heach
      exact ⟨start', .nil start', hfilled⟩
  | cons hbefore hafter hends hread _ ih =>
      obtain ⟨⟨key, old⟩, olds, ⟨hkey, hchange⟩, hothers, rfl⟩ :=
        List.forall₂_cons_right_iff.1 heach
      obtain rfl := hkey
      obtain ⟨next', htakes, hnext⟩ :=
        hreflects.member hchange hbefore hafter hends hread hfilled
      obtain ⟨final', hfills, hfinal⟩ := ih hothers hnext
      exact ⟨final', .cons htakes hfills, hfinal⟩

/-- Whether a draft is complete depends on which fields have been read. -/
theorem complete (hreflects : fields.Reflects slots more) {draft : Draft types}
    {draft' : Draft others} (hfilled : Draft.filled draft' = Draft.filled draft)
    {values : Values types} (hcomplete : fields.complete draft = .ok values) :
    ∃ found, more.complete draft' = .ok found := by
  induction hreflects with
  | nil => exact ⟨(), rfl⟩
  | @cons _ _ _ _ field other fields more change slots _ _ hdefault _ ih =>
      obtain ⟨slot, draft⟩ := draft
      obtain ⟨slot', draft'⟩ := draft'
      obtain ⟨hslot, hdraft⟩ := List.cons.inj hfilled
      rw [Fields.complete] at hcomplete
      split at hcomplete
      · cases hcomplete
      · next value hvalue =>
        obtain ⟨rest, hrest, -⟩ := bind_eq_ok.1 hcomplete
        obtain ⟨found, hfound⟩ := ih hdraft hrest
        have hthere : ∃ value', slot'.or other.default? = some value' := by
          cases slot' with
          | some value' => exact ⟨value', rfl⟩
          | none =>
              obtain rfl : slot = none := by simpa using hslot.symm
              have hsome : field.default? ≠ none := by
                intro hnone
                rw [Option.none_or, hnone] at hvalue
                cases hvalue
              exact Option.ne_none_iff_exists'.1 (hdefault hsome)
        obtain ⟨value', hvalue'⟩ := hthere
        exact ⟨(value', found), by simp [Fields.complete, hvalue', hfound, bind, Except.bind]⟩

/-- Where changed parts are read by the first fields, the parts before are written for the
others. -/
theorem fits (hreflects : fields.Reflects slots more) {olds news : List (List Char)}
    (heach : PartsChange slots olds news) {values : Values types}
    (hordered : fields.Ordered news values) :
    ∃ shown omitted found, more.Fits (shown ++ omitted) found ∧
      (∀ slot ∈ omitted, slot.omissible) ∧
      List.Forall₂ (fun (old : List Char) (slot : Slot) => slot.writes old) olds shown := by
  induction hreflects generalizing olds news with
  | nil =>
      cases heach
      exact ⟨[], [], (), .nil, by simp, .nil⟩
  | @cons _ _ _ _ field other fields more change slots _ hreflects hdefault _ ih =>
      cases heach with
      | nil =>
          cases hordered with
          | default hvalue hrest =>
              obtain ⟨shown, omitted, found, hfits, homitted, hshown⟩ := ih (.nil slots) hrest
              cases hshown
              obtain ⟨value, hother⟩ := Option.ne_none_iff_exists'.1 (hdefault (by simp [hvalue]))
              refine ⟨[], ⟨other.name, fun _ => False, True⟩ :: omitted, (value, found), ?_, ?_,
                .nil⟩
              · exact .cons rfl (fun _ => False.elim) (fun _ => hother) hfits
              · exact List.forall_mem_cons.2 ⟨trivial, homitted⟩
      | @cons _ _ _ old new olds news hchange hparts =>
          cases hordered with
          | part haccepts hrest =>
              obtain ⟨shown, omitted, found, hfits, homitted, hshown⟩ := ih hparts hrest
              obtain ⟨value, hvalue⟩ := hreflects.reflects old new _ hchange haccepts
              refine ⟨⟨other.name, fun text => text = old, False⟩ :: shown, omitted,
                (value, found), ?_, homitted, .cons rfl hshown⟩
              refine .cons rfl ?_ False.elim hfits
              rintro text rfl
              exact hvalue

/-- Changes of the fields are reflected by the record. -/
theorem record (hreflects : fields.Reflects slots more) (name : String) :
    Json.Reflects (EachField slots) (Decoder.record name fields) (Decoder.record name more) where
  skims := hreflects.skim.record name
  formed := by
    intro old new hchange
    cases hchange with
    | object heach _ hchanged =>
        exact wellFormed_object hchanged
          (forall_mem_of_forall₂ heach fun _ _ hchange => hreflects.formed_member hchange.2)
    | list heach _ hchanged => exact wellFormed_list hchanged (hreflects.formed_parts heach)
  reflects := by
    intro old new values hchange haccepts
    cases hchange with
    | object heach htext hchanged =>
        obtain ⟨draft, habsorbs, hcomplete⟩ := accepts_object hreflects.skim hchanged
          (forall_mem_of_forall₂ heach fun _ _ hchange => hreflects.formed_member hchange.2)
          haccepts
        obtain ⟨final, hfills, hfilled⟩ :=
          hreflects.fills heach habsorbs hreflects.filled_blank
        obtain ⟨found, hfound⟩ := hreflects.complete hfilled hcomplete
        exact ⟨found, reads_object name htext hfills hfound⟩
    | list heach htext hchanged =>
        have hordered := accepts_positions hreflects.skim hchanged (hreflects.formed_parts heach)
          haccepts
        obtain ⟨shown, omitted, found, hfits, homitted, hshown⟩ := hreflects.fits heach hordered
        exact ⟨found, reads_positions name hfits (htext.of_forall₂ hshown) homitted⟩

end Fields.Reflects

section Kept

variable {fields : Fields types}

/-- The step: a key that is read is spelled. -/
theorem named_member (hskim : fields.Skim) {member : Unit × Unit} {text : List Char}
    (htext : MemberText (fun _ => IsString) (fun _ => WellFormed) member text) {rounds : Nat}
    {first : Bool} {s tail rest left : List Char} {start final : Draft types} (hends : Ends rest)
    (htail : text ++ rest = '"' :: tail) (hnext : nextKey first s = .ok (some tail))
    (hread : membersIn fields rounds first start s = .ok (final, left)) :
    ∃ named fewer next, MemberText Spelled Eq named text ∧ WellFormed named.2 ∧
      membersIn fields fewer false next rest = .ok (final, left) := by
  obtain ⟨fewer, key, next, u, v, hkey, hmember, hmore⟩ := membersIn_of_next hnext hread
  cases htext with
  | @intro _ _ name before after part hname hbefore hafter hformed =>
      obtain ⟨body, rfl⟩ := List.head?_eq_some_iff.1 hname.head?
      obtain rfl : body ++ (before ++ ':' :: (after ++ (part ++ rest))) = tail := by
        simpa using htail
      obtain ⟨rfl, hspelled⟩ := hname.spelled hkey
      obtain ⟨t, hcolon, hpasses⟩ := hskim.member hmember
      rw [colon_append hbefore] at hcolon
      obtain rfl := Except.ok.inj hcolon
      obtain rfl := hpasses.unique (hformed.passes hafter hends)
      exact ⟨(key, part), fewer, next, .intro hspelled hbefore hafter rfl, hformed, hmore⟩

/-- The run: all keys that are read are spelled. -/
theorem named_members (hskim : fields.Skim) {members : List (Unit × Unit)} {text : List Char}
    (hmembers : Separated (MemberText (fun _ => IsString) (fun _ => WellFormed)) members text)
    (hne : members ≠ []) (rest : List Char) {rounds : Nat} {first : Bool}
    {s tail left : List Char} {start final : Draft types}
    (htail : skipBlank (text ++ '\x7d' :: rest) = '"' :: tail)
    (hnext : nextKey first s = .ok (some tail))
    (hread : membersIn fields rounds first start s = .ok (final, left)) :
    ∃ named, named ≠ [] ∧ MembersText named text ∧ ∀ member ∈ named, WellFormed member.2 := by
  have hquote : ∀ (key : Unit) name, IsString name → name.head? = some '"' :=
    fun _ _ hstring => hstring.head?
  induction hmembers generalizing rounds first s tail start with
  | nil _ => exact absurd rfl hne
  | @last member before text after hbefore htext hafter =>
      rw [List.append_assoc, List.append_assoc, htext.skipBlank_append hquote hbefore] at htail
      obtain ⟨named, -, -, hnamed, hformed, -⟩ := named_member hskim htext
        (ends_append hafter (ends_cons (by simp) rest)) htail hnext hread
      exact ⟨[named], by simp, .last hbefore hnamed hafter, by simpa using hformed⟩
  | @more member next members before text after texts hbefore htext hafter hmembers ih =>
      rw [List.append_assoc, List.append_assoc, List.append_assoc, List.cons_append,
        htext.skipBlank_append hquote hbefore] at htail
      obtain ⟨named, fewer, draft, hnamed, hformed, hmore⟩ := named_member hskim htext
        (ends_append hafter (ends_cons (by simp) _)) htail hnext hread
      obtain ⟨tail, hskip⟩ := hmembers.skipBlank_member hquote ('\x7d' :: rest)
      obtain ⟨others, hothers, htexts, hall⟩ :=
        ih (List.cons_ne_nil _ _) hskip (nextKey_comma hafter hskip) hmore
      obtain ⟨other, others, rfl⟩ := List.exists_cons_of_ne_nil hothers
      exact ⟨named :: other :: others, by simp, .more hbefore hnamed hafter htexts,
        List.forall_mem_cons.2 ⟨hformed, hall⟩⟩

/-- An object that is read has members with spelled keys. -/
theorem named_of_accepts (hskim : fields.Skim) {name : String} {members : List (Unit × Unit)}
    {text : List Char}
    (hmembers : Separated (MemberText (fun _ => IsString) (fun _ => WellFormed)) members text)
    {values : Values types}
    (haccepts : Accepts (Decoder.record name fields) ('\x7b' :: (text ++ ['\x7d'])) values) :
    ∃ named, MembersText named text ∧ ∀ member ∈ named, WellFormed member.2 := by
  obtain ⟨rounds, rest, draft, left, hdraft, -⟩ := membersIn_of_accepts haccepts
  cases members with
  | nil =>
      cases hmembers with
      | nil hblanks => exact ⟨[], .nil hblanks, by simp⟩
  | cons member members =>
      obtain ⟨tail, hskip⟩ :=
        hmembers.skipBlank_member (fun _ _ hstring => hstring.head?) ('\x7d' :: rest)
      obtain ⟨named, -, hnamed⟩ := named_members hskim hmembers (List.cons_ne_nil _ _) rest hskip
        (nextKey_first hskip) hdraft
      exact ⟨named, hnamed⟩

/-- A list that goes on does not close. -/
theorem not_closePositional {first : Bool} {s t after : List Char}
    (hnext : Decoder.nextElement first s = .ok (some t)) : closePositional s ≠ .ok after := by
  intro hclose
  have hbracket := skipBlank_of_closePositional hclose
  obtain ⟨c, u, -, hc, ⟨-, hs⟩ | ⟨-, v, hs, -⟩⟩ := nextElement_some hnext
  · rw [hbracket] at hs
    exact hc (List.cons.inj hs).1.symm
  · rw [hbracket] at hs
    cases hs

/-- A list of field values that is read to its end has no more parts than the record has fields. -/
theorem length_le_of_positional (hskim : fields.Skim) {parts : List (List Char)}
    {text : List Char} (hparts : Separated Eq parts text) (hne : parts ≠ [])
    (hformed : ∀ part ∈ parts, WellFormed part) {record : String} {total : Nat} (rest : List Char)
    {index : Nat} {s left after : List Char} {values : Values types}
    (hnext : Decoder.nextElement (index == 0) s = .ok (some (skipBlank (text ++ ']' :: rest))))
    (hread : fields.positional record total index s = .ok (values, left))
    (hclose : closePositional left = .ok after) : parts.length ≤ types.length := by
  induction hparts generalizing types index s with
  | nil _ => exact absurd rfl hne
  | last _ _ _ =>
      cases fields with
      | nil =>
          obtain ⟨-, rfl⟩ := Prod.mk.inj (Except.ok.inj hread)
          exact absurd hclose (not_closePositional hnext)
      | cons field fields => simp
  | @more part next parts before _ between texts hbefore hsame hbetween hparts ih =>
      subst hsame
      rw [List.forall_mem_cons] at hformed
      cases fields with
      | nil =>
          obtain ⟨-, rfl⟩ := Prod.mk.inj (Except.ok.inj hread)
          exact absurd hclose (not_closePositional hnext)
      | cons field fields =>
          obtain ⟨value, more, u, rfl, hvalue, hmore⟩ := Fields.positional_of_next hnext hread
          rw [List.append_assoc, List.append_assoc, List.append_assoc, List.cons_append,
            hformed.1.skipBlank_append hbefore] at hvalue
          obtain ⟨rfl, -⟩ := hskim.1.accepts hformed.1 allBlank_nil
            (ends_append hbetween (ends_cons (by simp) _)) hvalue
          obtain ⟨c, tail, hskip, hopen⟩ :=
            exists_token_of_separated hparts (hformed.2 next List.mem_cons_self) (']' :: rest)
          have hcomma : Decoder.nextElement (index + 1 == 0)
              (between ++ ',' :: (texts ++ ']' :: rest)) =
                .ok (some (skipBlank (texts ++ ']' :: rest))) :=
            nextElement_comma hbetween hskip hopen
          exact Nat.succ_le_succ (ih hskim.2 (List.cons_ne_nil _ _) hformed.2 hcomma hmore)

theorem length_le_of_accepts (hskim : fields.Skim) {name : String} {parts : List (List Char)}
    {text : List Char} (hparts : Separated Eq parts text)
    (hformed : ∀ part ∈ parts, WellFormed part) {values : Values types}
    (haccepts : Accepts (Decoder.record name fields) ('[' :: (text ++ [']'])) values) :
    parts.length ≤ types.length := by
  obtain ⟨rest, left, after, hread, hclose⟩ := positional_of_accepts haccepts
  cases parts with
  | nil => exact Nat.zero_le _
  | cons part parts =>
      obtain ⟨c, tail, hskip, hopen⟩ :=
        exists_token_of_separated hparts (hformed part List.mem_cons_self) (']' :: rest)
      have hfirst : Decoder.nextElement (0 == 0) (text ++ ']' :: rest) =
          .ok (some (skipBlank (text ++ ']' :: rest))) := nextElement_first hskip hopen
      exact length_le_of_positional hskim hparts (List.cons_ne_nil _ _) hformed rest hfirst hread
        hclose

/-- Whatever a field reads may stay as it is under the change of its slot. -/
inductive Fields.Allows : {types : List Type} → Fields types → List (String × Change) → Prop
  | nil : Allows .nil []
  | cons {α : Type} {types : List Type} {field : Field α} {fields : Fields types} {change : Change}
      {slots : List (String × Change)} (hallows : Json.Allows change field.read)
      (hrest : Allows fields slots) :
      Allows (.cons field fields) ((field.name, change) :: slots)

namespace Fields.Allows

variable {slots : List (String × Change)}

/-- The step: a member that is read may stay as it is. -/
theorem member (hallows : fields.Allows slots) {key : String} {part : List Char}
    (hformed : WellFormed part) {before after rest : List Char} (hbefore : AllBlank before)
    (hafter : AllBlank after) (hends : Ends rest) {start next : Draft types}
    (hread : fields.member key start (before ++ ':' :: (after ++ (part ++ rest))) =
      .ok (next, rest)) : MemberChange slots key part part := by
  induction hallows with
  | nil => exact ⟨rfl, hformed⟩
  | @cons _ _ field fields change slots hallows _ ih =>
      obtain ⟨slot, start⟩ := start
      rw [MemberChange]
      by_cases hkey : key = field.name
      · subst hkey
        rw [if_pos rfl]
        cases slot with
        | some value =>
            rw [member_repeated] at hread
            cases hread
        | none =>
            rw [member_fresh] at hread
            obtain ⟨t, hcolon, hread⟩ := bind_eq_ok.1 hread
            rw [colon_append hbefore] at hcolon
            obtain rfl := Except.ok.inj hcolon
            obtain ⟨⟨value, u⟩, hvalue, hread⟩ := bind_eq_ok.1 hread
            obtain ⟨rfl, rfl⟩ := Prod.mk.inj (Except.ok.inj hread)
            exact hallows part value hformed ⟨after, _, hafter, hends, hvalue⟩
      · rw [if_neg hkey]
        rw [member_other field fields hkey] at hread
        obtain ⟨⟨draft, u⟩, hmember, hread⟩ := bind_eq_ok.1 hread
        obtain ⟨rfl, rfl⟩ := Prod.mk.inj (Except.ok.inj hread)
        exact ih hmember

/-- The run: all members that are read may stay as they are. -/
theorem members (hallows : fields.Allows slots) {members : List (String × List Char)}
    (hformed : ∀ member ∈ members, WellFormed member.2) {start final : Draft types}
    (habsorbs : fields.Absorbs start members final) :
    ∀ member ∈ members, MemberChange slots member.1 member.2 member.2 := by
  induction habsorbs with
  | nil => simp
  | cons hbefore hafter hends hread _ ih =>
      rw [List.forall_mem_cons] at hformed
      exact List.forall_mem_cons.2
        ⟨hallows.member hformed.1 hbefore hafter hends hread, ih hformed.2⟩

theorem parts (hallows : fields.Allows slots) {parts : List (List Char)}
    (hformed : ∀ part ∈ parts, WellFormed part) (hlength : parts.length ≤ types.length)
    {values : Values types} (hordered : fields.Ordered parts values) :
    PartsChange slots parts parts := by
  induction hallows generalizing parts with
  | nil =>
      obtain rfl := List.length_eq_zero_iff.1 (Nat.le_zero.1 hlength)
      exact .nil []
  | cons hallows _ ih =>
      cases hordered with
      | part haccepts hrest =>
          rw [List.forall_mem_cons] at hformed
          exact .cons (hallows _ _ hformed.1 haccepts)
            (ih hformed.2 (Nat.le_of_succ_le_succ hlength) hrest)
      | default _ _ => exact .nil _

/-- A record that is read has fields that are read. -/
theorem record (hallows : fields.Allows slots) (hskim : fields.Skim) (name : String) :
    Json.Allows (EachField slots) (Decoder.record name fields) := by
  intro text values hformed haccepts
  obtain ⟨blanks, rest, hblanks, -, hread⟩ := id haccepts
  rw [Decoder.record, hformed.skipBlank_append hblanks] at hread
  split at hread
  · next tail htail =>
    obtain ⟨items, inner, hitems, rfl⟩ := hformed.exists_items (head?_of_append hformed.opens htail)
    obtain ⟨parts, hparts, hall⟩ := hitems.exists_parts
    have hparted := forall_mem_of_forall₂ hall fun _ _ hformed => hformed
    have hlength := length_le_of_accepts hskim hparts hparted haccepts
    have hordered := accepts_positions hskim hparts hparted haccepts
    exact .list (hallows.parts hparted hlength hordered) hparts hparts
  · next tail htail =>
    obtain ⟨members, inner, hmembers, rfl⟩ :=
      hformed.exists_members (head?_of_append hformed.opens htail)
    obtain ⟨named, hnamed, hall⟩ := named_of_accepts hskim hmembers haccepts
    obtain ⟨draft, habsorbs, -⟩ := accepts_object hskim hnamed hall haccepts
    refine .object (List.forall₂_same.2 fun member hmember => ⟨rfl, ?_⟩) hnamed hnamed
    exact hallows.members hall habsorbs member hmember
  · cases hread

end Fields.Allows

/-- Every field keeps what it reads. -/
def Fields.Keeps : {types : List Type} → Fields types → Prop
  | [], .nil => True
  | _ :: _, .cons field fields => Json.Reflects Kept field.read field.read ∧ fields.Keeps

/-- The slots of fields of which no value is changed. -/
def Fields.keptSlots (fields : Fields types) : List (String × Change) :=
  fields.names.map (·, Kept)

theorem Fields.Keeps.reflects (hkeeps : fields.Keeps) :
    fields.Reflects fields.keptSlots fields := by
  induction fields with
  | nil => exact .nil
  | cons field fields ih => exact .cons rfl hkeeps.1 id (ih hkeeps.2)

theorem Fields.Keeps.allows (hkeeps : fields.Keeps) : fields.Allows fields.keptSlots := by
  induction fields with
  | nil => exact .nil
  | cons field fields ih => exact .cons (allows_kept field.read) (ih hkeeps.2)

/-- A record that is kept has kept fields. -/
theorem Fields.Keeps.record (hkeeps : fields.Keeps) (name : String) :
    Json.Reflects Kept (Decoder.record name fields) (Decoder.record name fields) where
  skims := hkeeps.reflects.skim.record name
  formed := fun _ _ hkept => hkept.2
  reflects := by
    rintro text _ values ⟨rfl, hformed⟩ haccepts
    have hchange := hkeeps.allows.record hkeeps.reflects.skim name text values hformed haccepts
    exact (hkeeps.reflects.record name).reflects text text values hchange haccepts

end Kept

end OpeningTimes.Json

import OpeningTimes.Proofs.Json.Accepting
import OpeningTimes.Proofs.Json.Integer

/-!
Changes that spoil a text.  A change takes one text to another.  It spoils a decoder when a text
that is read is never changed to one that is read as well; there is one lemma for each way to
build a decoder.
-/

namespace OpeningTimes.Json

/-- What one text may be changed to. -/
abbrev Change := List Char → List Char → Prop

def Change.none : Change := fun _ _ =>
  False

def Change.either (change other : Change) : Change := fun old new =>
  change old new ∨ other old new

/-- The integer that the sign and the digits before the point make. -/
def NumberText.integer (number : NumberText) : Int :=
  if number.negative then -(Nat.ofDigitChars 10 number.whole 0 : Int)
  else Nat.ofDigitChars 10 number.whole 0

/-- The number has a fraction or an exponent, or it is an integer that lies outside the bounds. -/
def NumberText.Outside (low high : Int) (number : NumberText) : Prop :=
  number.fraction ≠ none ∨ number.exponent ≠ none ∨ number.integer < low ∨ high < number.integer

/-- Any value is changed to a number that is no integer between the bounds, with as many digits as
may be. -/
inductive IntegerChange (low high : Int) : Change
  | intro {number : NumberText} {old new : List Char} (hold : WellFormed old)
      (hnumber : IsNumber number new) (houtside : number.Outside low high) :
      IntegerChange low high old new

inductive NullChange : Change
  | intro {old : List Char} (hold : WellFormed old) : NullChange old "null".toList

/-- Any value is changed to a string with some property. -/
inductive StringChange (P : String → Prop) : Change
  | intro {value : String} {old new : List Char} (hold : WellFormed old)
      (hspelled : Spelled value new) (hvalue : P value) : StringChange P old new

/-- One element of a list is changed. -/
inductive ListChange (change : Change) : Change
  | intro {front back : List (List Char)} {old new text changed : List Char}
      (hchange : change old new) (hothers : ∀ part ∈ front ++ back, WellFormed part)
      (htext : Separated Eq (front ++ old :: back) text)
      (hchanged : Separated Eq (front ++ new :: back) changed) :
      ListChange change ('[' :: (text ++ [']'])) ('[' :: (changed ++ [']']))

/-- Any value is changed to null, or one element of a list is changed. -/
def NullOrListChange (change : Change) : Change :=
  NullChange.either (ListChange change)

/-- A field of a record: its name, whether it has to be written, and what its value may be changed
to. -/
structure FieldChange where
  name : String
  required : Prop
  change : Change

/-- One change of a record.  In either form one field may be changed; in an object a field may also
be repeated, with any value, and a field that has to be written may be removed. -/
inductive RecordChange (slots : List FieldChange) : Change
  | member {slot : FieldChange} {front back : List (String × List Char)}
      {old new text changed : List Char} (hslot : slot ∈ slots) (hchange : slot.change old new)
      (hothers : ∀ other ∈ front ++ back, WellFormed other.2)
      (htext : MembersText (front ++ (slot.name, old) :: back) text)
      (hchanged : MembersText (front ++ (slot.name, new) :: back) changed) :
      RecordChange slots ('\x7b' :: (text ++ ['\x7d'])) ('\x7b' :: (changed ++ ['\x7d']))
  | position {slot : FieldChange} {front back : List (List Char)}
      {old new text changed : List Char} (hslot : slots[front.length]? = some slot)
      (hchange : slot.change old new) (hothers : ∀ part ∈ front ++ back, WellFormed part)
      (htext : Separated Eq (front ++ old :: back) text)
      (hchanged : Separated Eq (front ++ new :: back) changed) :
      RecordChange slots ('[' :: (text ++ [']'])) ('[' :: (changed ++ [']']))
  | repeated {slot : FieldChange} {front back : List (String × List Char)}
      {value text changed : List Char} (hslot : slot ∈ slots)
      (hthere : slot.name ∈ (front ++ back).map Prod.fst) (hvalue : WellFormed value)
      (hothers : ∀ other ∈ front ++ back, WellFormed other.2)
      (htext : MembersText (front ++ back) text)
      (hchanged : MembersText (front ++ (slot.name, value) :: back) changed) :
      RecordChange slots ('\x7b' :: (text ++ ['\x7d'])) ('\x7b' :: (changed ++ ['\x7d']))
  | removed {slot : FieldChange} {front back : List (String × List Char)}
      {value text changed : List Char} (hslot : slot ∈ slots) (hrequired : slot.required)
      (hvalue : WellFormed value) (hothers : ∀ other ∈ front ++ back, WellFormed other.2)
      (htext : MembersText (front ++ (slot.name, value) :: back) text)
      (hchanged : MembersText (front ++ back) changed) :
      RecordChange slots ('\x7b' :: (text ++ ['\x7d'])) ('\x7b' :: (changed ++ ['\x7d']))

section Forms

/-- Values may be taken for others that are written in the same way. -/
theorem Separated.map_imp {α β : Type} {P : α → List Char → Prop} {Q : β → List Char → Prop}
    {values : List α} {text : List Char} (hvalues : Separated P values text) (f : α → β)
    (himp : ∀ value ∈ values, ∀ part, P value part → Q (f value) part) :
    Separated Q (values.map f) text := by
  induction hvalues with
  | nil hblanks => exact .nil hblanks
  | last hbefore htext hafter =>
      exact .last hbefore (himp _ List.mem_cons_self _ htext) hafter
  | more hbefore htext hafter _ ih =>
      rw [List.forall_mem_cons] at himp
      exact .more hbefore (himp.1 _ htext) hafter (ih himp.2)

theorem wellFormed_list {parts : List (List Char)} {text : List Char}
    (hparts : Separated Eq parts text) (hformed : ∀ part ∈ parts, WellFormed part) :
    WellFormed ('[' :: (text ++ [']'])) :=
  .list (hparts.map_imp (fun _ => ()) fun part hpart _ hsame => hsame ▸ hformed part hpart)

/-- The spelling of a character has the form of one piece of a string or of two. -/
theorem SpelledChar.exists_pieces {c : Char} {piece : List Char} (hspelled : SpelledChar c piece) :
    ∃ pieces : List (List Char), (∀ part ∈ pieces, StringPiece part) ∧ pieces.flatten = piece := by
  cases hspelled with
  | plain hplain => exact ⟨[[c]], by simpa using .plain hplain, by simp⟩
  | named hletter => exact ⟨[_], by simpa using .named hletter, by simp⟩
  | numbered hdigits => exact ⟨[_], by simpa using .numbered hdigits, by simp⟩
  | @paired _ _ first second hfirst hsecond =>
      refine ⟨['\\' :: 'u' :: first, '\\' :: 'u' :: second], ?_, by simp⟩
      exact List.forall_mem_cons.2
        ⟨.numbered hfirst, List.forall_mem_singleton.2 (.numbered hsecond)⟩

theorem exists_pieces_of_spelled {body : List Char} {spellings : List (List Char)}
    (hspelled : List.Forall₂ SpelledChar body spellings) :
    ∃ pieces : List (List Char), (∀ part ∈ pieces, StringPiece part) ∧
      pieces.flatten = spellings.flatten := by
  induction hspelled with
  | nil => exact ⟨[], by simp, rfl⟩
  | cons hchar _ ih =>
      obtain ⟨first, hfirst, hflatten⟩ := hchar.exists_pieces
      obtain ⟨more, hmore, hothers⟩ := ih
      refine ⟨first ++ more, ?_, by simp [hflatten, hothers]⟩
      exact List.forall_mem_append.2 ⟨hfirst, hmore⟩

/-- Every spelling of a string has the form of a string. -/
theorem Spelled.isString {value : String} {text : List Char} (hspelled : Spelled value text) :
    IsString text := by
  obtain ⟨spellings, hspellings, rfl⟩ := hspelled
  obtain ⟨pieces, hpieces, hflatten⟩ := exists_pieces_of_spelled hspellings
  exact ⟨pieces, hpieces, by rw [hflatten]⟩

theorem wellFormed_object {members : List (String × List Char)} {text : List Char}
    (hmembers : MembersText members text) (hformed : ∀ member ∈ members, WellFormed member.2) :
    WellFormed ('\x7b' :: (text ++ ['\x7d'])) := by
  refine .object (hmembers.map_imp (fun _ => ((), ())) fun member hmember part hpart => ?_)
  cases hpart with
  | intro hname hbefore hafter hsame =>
      exact .intro hname.isString hbefore hafter (hsame ▸ hformed _ hmember)

theorem forall_mem_middle {α : Type} {P : α → Prop} {front back : List α} {middle : α}
    (hothers : ∀ other ∈ front ++ back, P other) (hmiddle : P middle) :
    ∀ other ∈ front ++ middle :: back, P other := by
  intro other hother
  rcases List.mem_append.1 hother with hfront | hrest
  · exact hothers other (List.mem_append_left back hfront)
  · rcases List.mem_cons.1 hrest with rfl | hback
    · exact hmiddle
    · exact hothers other (List.mem_append_right front hback)

end Forms

/-- A decoder takes whole values, and a text that it reads is never changed to one that it reads as
a value with the property. -/
structure Spoils {α : Type} (read : Decoder α) (P : α → Prop) (change : Change) : Prop where
  skims : Skims read
  formed : ∀ old new, change old new → WellFormed old ∧ WellFormed new
  spoils : ∀ old new value other, change old new → Accepts read old value →
    Accepts read new other → ¬ P other

/-- The decoder reads nothing from the text that has the property. -/
def Refuses {α : Type} (read : Decoder α) (P : α → Prop) (text : List Char) : Prop :=
  ∀ value, Accepts read text value → ¬ P value

def Any {α : Type} (_ : α) : Prop :=
  True

section Scalars

variable {α β : Type} {read : Decoder α} {P : α → Prop}

theorem accepts_map {f : α → β} {text : List Char} {value : β}
    (haccepts : Accepts (Decoder.map f read) text value) :
    ∃ found, Accepts read text found ∧ f found = value := by
  obtain ⟨blanks, rest, hblanks, hends, hread⟩ := haccepts
  unfold Decoder.map at hread
  split at hread
  · cases hread
  · next found left hfound =>
    obtain ⟨hvalue, rfl⟩ := Prod.mk.inj (Except.ok.inj hread)
    exact ⟨found, ⟨blanks, left, hblanks, hends, hfound⟩, hvalue⟩

theorem Refuses.map {text : List Char} (hrefuses : Refuses read Any text) (f : α → β) :
    Refuses (Decoder.map f read) Any text := by
  intro value haccepts
  obtain ⟨found, hfound, -⟩ := accepts_map haccepts
  exact hrefuses found hfound

theorem Spoils.map {change : Change} (hspoils : Spoils read Any change) (f : α → β) :
    Spoils (Decoder.map f read) Any change where
  skims := hspoils.skims.map f
  formed := hspoils.formed
  spoils := by
    intro old new value other hchange hold hnew
    obtain ⟨before, hbefore, -⟩ := accepts_map hold
    obtain ⟨after, hafter, -⟩ := accepts_map hnew
    exact hspoils.spoils old new before after hchange hbefore hafter

theorem Spoils.weaken {Q : α → Prop} {change : Change} (hspoils : Spoils read P change)
    (himp : ∀ value, Q value → P value) : Spoils read Q change where
  skims := hspoils.skims
  formed := hspoils.formed
  spoils := fun old new value other hchange hold hnew hother =>
    hspoils.spoils old new value other hchange hold hnew (himp other hother)

theorem spoils_none (hskims : Skims read) : Spoils read P Change.none where
  skims := hskims
  formed := fun _ _ => False.elim
  spoils := fun _ _ _ _ => False.elim

theorem Spoils.either {change other : Change} (hfirst : Spoils read P change)
    (hsecond : Spoils read P other) : Spoils read P (change.either other) where
  skims := hfirst.skims
  formed := fun old new hchange => hchange.elim (hfirst.formed old new) (hsecond.formed old new)
  spoils := fun old new value found hchange hold hnew =>
    hchange.elim (fun hchange => hfirst.spoils old new value found hchange hold hnew)
      (fun hchange => hsecond.spoils old new value found hchange hold hnew)

/-- A text that starts a value other than null is no absent value. -/
theorem accepts_optional {text : List Char} (hopens : Opens text) (hnull : text.head? ≠ some 'n')
    {option : Option α} (haccepts : Accepts (Decoder.optional read) text option) :
    ∃ value, option = some value ∧ Accepts read text value := by
  obtain ⟨blanks, rest, hblanks, hends, hread⟩ := haccepts
  obtain ⟨c, tail, rfl, hblank, -⟩ := hopens
  have hskip : skipBlank (blanks ++ (c :: tail ++ rest)) = c :: tail ++ rest :=
    skipBlank_append_token hblanks hblank (tail ++ rest)
  unfold Decoder.optional at hread
  rw [hskip] at hread
  split at hread
  · next hn =>
    obtain ⟨rfl, -⟩ := List.cons.inj hn
    exact absurd rfl hnull
  · have haccepts : Accepts (Decoder.map some read) (c :: tail) option :=
      ⟨[], rest, allBlank_nil, hends, hread⟩
    obtain ⟨value, hvalue, hsome⟩ := accepts_map haccepts
    exact ⟨value, hsome.symm, hvalue⟩

theorem Spoils.optional {change : Change} (hspoils : Spoils read P change)
    (hnull : ∀ old new, change old new → old.head? ≠ some 'n' ∧ new.head? ≠ some 'n') :
    Spoils (Decoder.optional read) (fun option => ∀ value ∈ option, P value) change where
  skims := hspoils.skims.optional
  formed := hspoils.formed
  spoils := by
    intro old new option other hchange hold hnew hall
    obtain ⟨hformed, hformedNew⟩ := hspoils.formed old new hchange
    obtain ⟨hstart, hstartNew⟩ := hnull old new hchange
    obtain ⟨value, -, hvalue⟩ := accepts_optional hformed.opens hstart hold
    obtain ⟨found, rfl, hfound⟩ := accepts_optional hformedNew.opens hstartNew hnew
    exact hspoils.spoils old new value found hchange hvalue hfound (hall found rfl)

theorem Refuses.optional {text : List Char} (hrefuses : Refuses read P text) (hopens : Opens text)
    (hnull : text.head? ≠ some 'n') :
    Refuses (Decoder.optional read) (fun option => ∀ value ∈ option, P value) text := by
  intro option haccepts hall
  obtain ⟨value, rfl, hvalue⟩ := accepts_optional hopens hnull haccepts
  exact hrefuses value hvalue (hall value rfl)

/-- A change to texts that are refused spoils, whatever is changed. -/
theorem spoils_of_refuses (hskims : Skims read) {change : Change}
    (hformed : ∀ old new, change old new → WellFormed old ∧ WellFormed new)
    (hrefuses : ∀ old new, change old new → Refuses read P new) : Spoils read P change where
  skims := hskims
  formed := hformed
  spoils := fun old new _ other hchange _ hnew => hrefuses old new hchange other hnew

theorem spoils_null (hskims : Skims read)
    (hrefuses : ∀ value, ¬ Accepts read "null".toList value) : Spoils read Any NullChange := by
  refine spoils_of_refuses hskims ?_ ?_
  · rintro old new ⟨hold⟩
    exact ⟨hold, .null⟩
  · rintro old new ⟨hold⟩ value haccepts
    exact absurd haccepts (hrefuses value)

theorem skipBlank_null {blanks : List Char} (hblanks : AllBlank blanks) (rest : List Char) :
    skipBlank (blanks ++ 'n' :: 'u' :: 'l' :: 'l' :: rest) = 'n' :: 'u' :: 'l' :: 'l' :: rest :=
  skipBlank_append_token hblanks (by decide) _

theorem not_accepts_null_boolean (value : Bool) :
    ¬ Accepts Decoder.boolean "null".toList value := by
  rintro ⟨blanks, rest, hblanks, -, hread⟩
  simp [Decoder.boolean, skipBlank_null hblanks] at hread

theorem not_accepts_null_oneOf (names : List (String × α)) (value : α) :
    ¬ Accepts (Decoder.oneOf names) "null".toList value := by
  rintro ⟨blanks, rest, hblanks, -, hread⟩
  simp [Decoder.oneOf, skipBlank_null hblanks] at hread

theorem not_accepts_null_list (read : Decoder α) (values : List α) :
    ¬ Accepts (Decoder.list read) "null".toList values := by
  rintro ⟨blanks, rest, hblanks, -, hread⟩
  simp [Decoder.list, skipBlank_null hblanks] at hread

theorem not_accepts_null_integerBetween (low high : Int) (wanted : Wanted) (value : Int) :
    ¬ Accepts (Decoder.integerBetween low high wanted) "null".toList value := by
  rintro ⟨blanks, rest, hblanks, -, hread⟩
  simp [Decoder.integerBetween, skipBlank_null hblanks, isDigit] at hread

theorem formed_stringChange {P : String → Prop} {old new : List Char}
    (hchange : StringChange P old new) : WellFormed old ∧ WellFormed new := by
  obtain ⟨hold, hspelled, -⟩ := hchange
  exact ⟨hold, .string hspelled.isString⟩

/-- A spelled string is read as what it spells and as nothing else. -/
theorem refuses_string {P : String → Prop} {old new : List Char}
    (hchange : StringChange P old new) : Refuses Decoder.string (fun value => ¬ P value) new := by
  obtain ⟨-, hspelled, hvalue⟩ := hchange
  rintro other ⟨blanks, rest, hblanks, hends, hread⟩ hother
  rw [(reads_string hspelled).reads blanks rest hblanks hends] at hread
  exact hother ((Prod.mk.inj (Except.ok.inj hread)).1 ▸ hvalue)

theorem spoils_string {P : String → Prop} :
    Spoils Decoder.string (fun value => ¬ P value) (StringChange P) :=
  spoils_of_refuses skims_string (fun _ _ => formed_stringChange) fun _ _ => refuses_string

theorem spoils_optional_string {P : String → Prop} :
    Spoils (Decoder.optional Decoder.string) (fun option => ∀ value ∈ option, ¬ P value)
      (StringChange P) := by
  refine spoils_of_refuses skims_string.optional (fun _ _ => formed_stringChange) ?_
  intro old new hchange
  obtain ⟨hold, hspelled, hvalue⟩ := hchange
  refine (refuses_string ⟨hold, hspelled, hvalue⟩).optional hspelled.opens ?_
  rw [hspelled.head?]
  decide

end Scalars

section Integers

/-- Digits that are all taken make the number that they stand for. -/
theorem eq_of_appendDigits {limit value size : Nat} {s : List Char}
    (hread : appendDigits limit value s = (size, [])) : Nat.ofDigitChars 10 s value = size := by
  induction s generalizing value with
  | nil => exact (Prod.mk.inj hread).1
  | cons c s ih =>
      rw [appendDigits] at hread
      split at hread
      · cases hread
      · rw [Nat.ofDigitChars_cons, Nat.mul_comm]
        exact ih hread

theorem double_ne_integer (number : NumberText) (value : Int) :
    number.double ≠ .ok (.integer value) := by
  unfold NumberText.double
  grind [signed]

/-- What is read as an integer is written as one and has its value. -/
theorem integer_of_value {number : NumberText} {value : Int}
    (hvalue : number.value = .ok (.integer value)) :
    number.fraction = none ∧ number.exponent = none ∧ number.integer = value := by
  unfold NumberText.value at hvalue
  split at hvalue
  · next size hfraction hexponent hdigits =>
    refine ⟨hfraction, hexponent, ?_⟩
    rw [NumberText.integer, eq_of_appendDigits hdigits]
    split at hvalue
    · next hnegative =>
      split at hvalue
      · exact absurd hvalue (double_ne_integer number value)
      · rw [if_pos hnegative]
        exact Number.integer.inj (Except.ok.inj hvalue)
    · next hnegative =>
      rw [if_neg hnegative]
      exact Number.integer.inj (Except.ok.inj hvalue)
  · exact absurd hvalue (double_ne_integer number value)

/-- A number is read if it is an integer between the bounds, wherever it stands. -/
theorem integerBetween_append_iff {low high : Int} {wanted : Wanted} {number : NumberText}
    {text blanks rest left : List Char} {value : Int} (hnumber : IsNumber number text)
    (hblanks : AllBlank blanks) (hends : Ends rest) :
    Decoder.integerBetween low high wanted (blanks ++ (text ++ rest)) = .ok (value, left) ↔
      (number.value = .ok (.integer value) ∧ low ≤ value ∧ value ≤ high) ∧ rest = left := by
  have htext := numberText_append .endInValue hnumber hends
  obtain ⟨c, tail, rfl, hc⟩ := hnumber.exists_cons
  have hskip : skipBlank (blanks ++ (c :: tail ++ rest)) = c :: (tail ++ rest) :=
    skipBlank_append_token hblanks (isBlank_of_starts_number hc) (tail ++ rest)
  have hstart : (c = '-' || isDigit c) = true := by simpa using hc
  rw [List.cons_append] at htext
  simp only [Decoder.integerBetween, hskip, hstart, if_true, Json.number, htext, bind, Except.bind]
  cases number.value with
  | error count => simp
  | ok found =>
      cases found with
      | double bits => simp
      | integer n =>
          dsimp only
          split
          · next hbounds =>
            simp only [Except.ok.injEq, Prod.mk.injEq, Number.integer.injEq]
            constructor
            · rintro ⟨rfl, hrest⟩
              exact ⟨⟨rfl, hbounds⟩, hrest⟩
            · rintro ⟨⟨hvalue, -⟩, hrest⟩
              exact ⟨hvalue, hrest⟩
          · next hbounds =>
            simp only [reduceCtorEq, Except.ok.injEq, Number.integer.injEq, false_iff, not_and]
            rintro ⟨rfl, hvalue⟩
            exact absurd hvalue hbounds

theorem refuses_integer {low high : Int} (wanted : Wanted) {old new : List Char}
    (hchange : IntegerChange low high old new) :
    Refuses (Decoder.integerBetween low high wanted) Any new := by
  rintro value ⟨blanks, rest, hblanks, hends, hread⟩ -
  obtain ⟨-, hnumber, houtside⟩ := hchange
  obtain ⟨⟨hvalue, hbounds⟩, -⟩ := (integerBetween_append_iff hnumber hblanks hends).1 hread
  obtain ⟨hfraction, hexponent, hinteger⟩ := integer_of_value hvalue
  rw [NumberText.Outside, hinteger] at houtside
  rcases houtside with h | h | h | h
  · exact h hfraction
  · exact h hexponent
  · omega
  · omega

theorem formed_integerChange {low high : Int} {old new : List Char}
    (hchange : IntegerChange low high old new) : WellFormed old ∧ WellFormed new := by
  obtain ⟨hold, hnumber, -⟩ := hchange
  exact ⟨hold, .number hnumber⟩

theorem head?_integerChange {low high : Int} {old new : List Char}
    (hchange : IntegerChange low high old new) : new.head? ≠ some 'n' := by
  obtain ⟨-, hnumber, -⟩ := hchange
  obtain ⟨c, tail, rfl, hc⟩ := hnumber.exists_cons
  simpa using ne_of_starts_number hc (by decide) (by decide)

/-- Bounded integers, whatever they are taken for, are spoiled by what lies outside. -/
theorem spoils_integer {α : Type} (low high : Int) (wanted : Wanted) (f : Int → α) :
    Spoils (Decoder.map f (Decoder.integerBetween low high wanted)) Any (IntegerChange low high) :=
  spoils_of_refuses ((skims_integerBetween low high wanted).map f)
    (fun _ _ => formed_integerChange) fun _ _ hchange => (refuses_integer wanted hchange).map f

/-- Also an integer that may be absent is spoiled by what lies outside. -/
theorem spoils_optional_integer {α : Type} (low high : Int) (wanted : Wanted) (f : Int → α) :
    Spoils (Decoder.optional (Decoder.map f (Decoder.integerBetween low high wanted))) Any
      (IntegerChange low high) := by
  refine spoils_of_refuses ((skims_integerBetween low high wanted).map f).optional
    (fun _ _ => formed_integerChange) ?_
  intro old new hchange value haccepts _
  have hopens := (formed_integerChange hchange).2.opens
  have hrefuses := ((refuses_integer wanted hchange).map f).optional hopens
    (head?_integerChange hchange)
  exact hrefuses value haccepts fun _ _ => trivial

end Integers

section Lists

variable {α : Type} {read : Decoder α} {change : Change}

theorem exists_accepts_of_mem {parts : List (List Char)} {values : List α}
    (haccepts : List.Forall₂ (Accepts read) parts values) {part : List Char}
    (hpart : part ∈ parts) : ∃ value, Accepts read part value := by
  induction haccepts with
  | nil => cases hpart
  | cons hvalue _ ih =>
      rcases List.mem_cons.1 hpart with rfl | hpart
      · exact ⟨_, hvalue⟩
      · exact ih hpart

theorem Spoils.list (hspoils : Spoils read Any change) :
    Spoils (Decoder.list read) Any (ListChange change) where
  skims := hspoils.skims.list
  formed := by
    rintro old new ⟨hchange, hothers, htext, hchanged⟩
    obtain ⟨hold, hnew⟩ := hspoils.formed _ _ hchange
    exact ⟨wellFormed_list htext (forall_mem_middle hothers hold),
      wellFormed_list hchanged (forall_mem_middle hothers hnew)⟩
  spoils := by
    rintro old new values others ⟨hchange, hothers, htext, hchanged⟩ haccepts hother -
    obtain ⟨hold, hnew⟩ := hspoils.formed _ _ hchange
    have hvalues := accepts_list hspoils.skims htext (forall_mem_middle hothers hold) haccepts
    have hchangedValues := accepts_list hspoils.skims hchanged
      (forall_mem_middle hothers hnew) hother
    obtain ⟨value, hvalue⟩ := exists_accepts_of_mem hvalues List.mem_append_cons_self
    obtain ⟨found, hfound⟩ := exists_accepts_of_mem hchangedValues List.mem_append_cons_self
    exact hspoils.spoils _ _ value found hchange hvalue hfound trivial

theorem Spoils.nullOrList (hspoils : Spoils read Any change) :
    Spoils (Decoder.list read) Any (NullOrListChange change) :=
  (spoils_null hspoils.skims.list (not_accepts_null_list read)).either hspoils.list

end Lists

section Records

/-- The fields of a record are spoiled by their changes, and what spoils one of them spoils the
record for values with the property. -/
inductive Fields.Guards :
    {types : List Type} → Fields types → List FieldChange → (Values types → Prop) → Prop
  | nil : Guards .nil [] Any
  | cons {α : Type} {types : List Type} {field : Field α} {fields : Fields types}
      {slot : FieldChange} {slots : List FieldChange} {P : α → Prop} {Q : Values types → Prop}
      (hname : slot.name = field.name) (hrequired : slot.required → field.default? = none)
      (hspoils : Spoils field.read P slot.change) (hrest : Guards fields slots Q) :
      Guards (.cons field fields) (slot :: slots) (fun values => P values.1 ∧ Q values.2)

variable {types : List Type} {fields : Fields types} {slots : List FieldChange}
  {P : Values types → Prop}

theorem Fields.Guards.skim (hguards : fields.Guards slots P) : fields.Skim := by
  induction hguards with
  | nil => exact trivial
  | cons _ _ hspoils _ ih => exact ⟨hspoils.skims, ih⟩

/-- Every change of a field is about a field of the record, and spoils it. -/
theorem Fields.Guards.exists_at (hguards : fields.Guards slots P) {index : Nat}
    {slot : FieldChange} (hslot : slots[index]? = some slot) :
    ∃ (α : Type) (field : Field α) (get : Values types → α) (fill : Draft types → Option α)
      (Q : α → Prop), fields.At field index get fill ∧ field.name = slot.name ∧
        (slot.required → field.default? = none) ∧ Spoils field.read Q slot.change ∧
        ∀ values, P values → Q (get values) := by
  induction hguards generalizing index with
  | nil => simp at hslot
  | @cons α _ field fields first slots P Q hname hrequired hspoils _ ih =>
      cases index with
      | zero =>
          obtain rfl : first = slot := by simpa using hslot
          exact ⟨α, field, _, _, P, .here, hname.symm, hrequired, hspoils, fun _ hall => hall.1⟩
      | succ index =>
          obtain ⟨β, other, get, fill, R, hat, hother, hneeds, hspoiled, hall⟩ :=
            ih (by simpa using hslot)
          exact ⟨β, other, _, _, R, .there hat, hother, hneeds, hspoiled,
            fun values hvalues => hall values.2 hvalues.2⟩

theorem Fields.Guards.exists_at_of_mem (hguards : fields.Guards slots P) {slot : FieldChange}
    (hslot : slot ∈ slots) :
    ∃ (α : Type) (field : Field α) (index : Nat) (get : Values types → α)
      (fill : Draft types → Option α) (Q : α → Prop), fields.At field index get fill ∧
        field.name = slot.name ∧ (slot.required → field.default? = none) ∧
        Spoils field.read Q slot.change ∧ ∀ values, P values → Q (get values) := by
  obtain ⟨index, hindex⟩ := List.getElem?_of_mem hslot
  obtain ⟨α, field, get, fill, Q, hat⟩ := hguards.exists_at hindex
  exact ⟨α, field, index, get, fill, Q, hat⟩

/-- No field stands twice in an object that is read. -/
theorem Fields.Guards.count_le_one (hguards : fields.Guards slots P) (hnames : fields.names.Nodup)
    {name : String} {members : List (String × List Char)} {text : List Char}
    (htext : MembersText members text) (hformed : ∀ member ∈ members, WellFormed member.2)
    {values : Values types}
    (haccepts : Accepts (Decoder.record name fields) ('\x7b' :: (text ++ ['\x7d'])) values)
    {slot : FieldChange} (hslot : slot ∈ slots) :
    (members.map Prod.fst).count slot.name ≤ 1 := by
  obtain ⟨α, field, index, get, fill, Q, hat, hname, -⟩ := hguards.exists_at_of_mem hslot
  rw [← hname]
  exact (hat.of_object hnames hguards.skim htext hformed haccepts).1

/-- A field that has to be written stands in every object that is read. -/
theorem Fields.Guards.name_mem (hguards : fields.Guards slots P) (hnames : fields.names.Nodup)
    {name : String} {members : List (String × List Char)} {text : List Char}
    (htext : MembersText members text) (hformed : ∀ member ∈ members, WellFormed member.2)
    {values : Values types}
    (haccepts : Accepts (Decoder.record name fields) ('\x7b' :: (text ++ ['\x7d'])) values)
    {slot : FieldChange} (hslot : slot ∈ slots) (hrequired : slot.required) :
    slot.name ∈ members.map Prod.fst := by
  obtain ⟨α, field, index, get, fill, Q, hat, hname, hneeds, -⟩ := hguards.exists_at_of_mem hslot
  by_contra hgone
  have hread := hat.of_object hnames hguards.skim htext hformed haccepts
  exact hread.2.1 (hname ▸ hgone) (hneeds hrequired)

theorem Fields.Guards.formed_of_mem (hguards : fields.Guards slots P) {slot : FieldChange}
    (hslot : slot ∈ slots) {old new : List Char} (hchange : slot.change old new) :
    WellFormed old ∧ WellFormed new := by
  obtain ⟨α, field, index, get, fill, Q, -, -, -, hspoils, -⟩ := hguards.exists_at_of_mem hslot
  exact hspoils.formed old new hchange

theorem Fields.Guards.formed (hguards : fields.Guards slots P) {old new : List Char}
    (hchange : RecordChange slots old new) : WellFormed old ∧ WellFormed new := by
  cases hchange with
  | member hslot hchange hothers htext hchanged =>
      obtain ⟨hold, hnew⟩ := hguards.formed_of_mem hslot hchange
      exact ⟨wellFormed_object htext (forall_mem_middle hothers hold),
        wellFormed_object hchanged (forall_mem_middle hothers hnew)⟩
  | position hslot hchange hothers htext hchanged =>
      obtain ⟨hold, hnew⟩ := hguards.formed_of_mem (List.mem_of_getElem? hslot) hchange
      exact ⟨wellFormed_list htext (forall_mem_middle hothers hold),
        wellFormed_list hchanged (forall_mem_middle hothers hnew)⟩
  | repeated _ _ hvalue hothers htext hchanged =>
      exact ⟨wellFormed_object htext hothers,
        wellFormed_object hchanged (forall_mem_middle hothers hvalue)⟩
  | removed _ _ hvalue hothers htext hchanged =>
      exact ⟨wellFormed_object htext (forall_mem_middle hothers hvalue),
        wellFormed_object hchanged hothers⟩

/-- Every change of a record spoils it. -/
theorem Fields.Guards.spoils (hguards : fields.Guards slots P) (hnames : fields.names.Nodup)
    (name : String) : Spoils (Decoder.record name fields) P (RecordChange slots) where
  skims := hguards.skim.record name
  formed := fun _ _ => hguards.formed
  spoils := by
    intro old new values others hchange hvalues hother hall
    cases hchange with
    | @member slot front back old new text changed hslot hchange hothers htext hchanged =>
        obtain ⟨α, field, index, get, fill, Q, hat, hname, -, hspoils, hpart⟩ :=
          hguards.exists_at_of_mem hslot
        obtain ⟨hold, hnew⟩ := hspoils.formed _ _ hchange
        obtain ⟨-, -, hread⟩ := hat.of_object hnames hguards.skim htext
          (forall_mem_middle hothers hold) hvalues
        obtain ⟨-, -, hreadChanged⟩ := hat.of_object hnames hguards.skim hchanged
          (forall_mem_middle hothers hnew) hother
        exact hspoils.spoils old new _ _ hchange (hread old (by simp [hname]))
          (hreadChanged new (by simp [hname])) (hpart others hall)
    | @position slot front back old new text changed hslot hchange hothers htext hchanged =>
        obtain ⟨α, field, get, fill, Q, hat, -, -, hspoils, hpart⟩ := hguards.exists_at hslot
        obtain ⟨hold, hnew⟩ := hspoils.formed _ _ hchange
        have hordered := accepts_positions hguards.skim htext (forall_mem_middle hothers hold)
          hvalues
        have hchangedOrdered := accepts_positions hguards.skim hchanged
          (forall_mem_middle hothers hnew) hother
        exact hspoils.spoils old new _ _ hchange (hat.of_ordered hordered (by simp))
          (hat.of_ordered hchangedOrdered (by simp)) (hpart others hall)
    | @repeated slot front back value text changed hslot hthere hvalue hothers htext hchanged =>
        have hcount := hguards.count_le_one hnames hchanged (forall_mem_middle hothers hvalue)
          hother hslot
        have hpos := List.count_pos_iff.2 hthere
        simp only [List.map_append, List.map_cons, List.count_append, List.count_cons_self]
          at hcount hpos
        omega
    | @removed slot front back value text changed hslot hrequired hvalue hothers htext hchanged =>
        -- The field stood only once, so it stands nowhere any more.
        have hcount := hguards.count_le_one hnames htext (forall_mem_middle hothers hvalue)
          hvalues hslot
        have hpos := List.count_pos_iff.2
          (hguards.name_mem hnames hchanged hothers hother hslot hrequired)
        simp only [List.map_append, List.map_cons, List.count_append, List.count_cons_self]
          at hcount hpos
        omega

/-- A field that is spoiled whatever its value, before others that are. -/
theorem Fields.Guards.cons_any {α : Type} {field : Field α} {slot : FieldChange}
    (hname : slot.name = field.name) (hrequired : slot.required → field.default? = none)
    (hspoils : Spoils field.read Any slot.change) (hrest : fields.Guards slots Any) :
    (Fields.cons field fields).Guards (slot :: slots) Any := by
  have hguards := Fields.Guards.cons hname hrequired hspoils hrest
  have hany : (fun values : Values (α :: types) => Any values.1 ∧ Any values.2) = Any := by
    funext values
    simp [Any]
  rwa [hany] at hguards

theorem head?_recordChange {old new : List Char} (hchange : RecordChange slots old new) :
    old.head? ≠ some 'n' ∧ new.head? ≠ some 'n' := by
  cases hchange <;> simp

end Records

/-- A decoder that reads a whole text accepts what stands between the blanks. -/
theorem accepts_of_decode {α : Type} {read : Decoder α} (hskims : Skims read)
    {before content after : List Char} (hformed : WellFormed content) (hbefore : AllBlank before)
    (hafter : AllBlank after) {text : String} (htext : text.toList = before ++ (content ++ after))
    {value : α} (hread : Decoder.decode read text = .ok value) : Accepts read content value := by
  unfold Decoder.decode at hread
  split at hread
  · next found hwhole =>
    obtain rfl := Except.ok.inj hread
    obtain ⟨⟨other, rest⟩, hother, hwhole⟩ := bind_eq_ok.1 hwhole
    obtain rfl : other = found := by
      dsimp only at hwhole
      split at hwhole
      · exact Except.ok.inj hwhole
      · cases hwhole
    rw [htext] at hother
    exact (hskims.accepts hformed hbefore (by simpa using ends_append hafter ends_nil) hother).2
  · cases hread

end OpeningTimes.Json

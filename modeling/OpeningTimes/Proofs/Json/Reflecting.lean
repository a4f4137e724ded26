import OpeningTimes.Proofs.Json.Changes
import OpeningTimes.Proofs.Json.Unspelling
import OpeningTimes.Proofs.Json.Writings

/-!
Changes that reflect reading.  When the changed text is read by one decoder, the text before the
change is read by another one, wherever it stands; there is one lemma for each way to build a
decoder.  Leaving a text as it is counts as a change, too.
-/

namespace OpeningTimes.Json

/-- A value stays as it is. -/
def Kept : Change := fun old new =>
  old = new ∧ WellFormed new

/-- A string is changed to another one, and both may be spelled in any way. -/
def Respelled : Change := fun old new =>
  (∃ value, Spelled value old) ∧ ∃ value, Spelled value new

inductive EachElement (change : Change) : Change
  | intro {olds news : List (List Char)} {text changed : List Char}
      (heach : List.Forall₂ change olds news) (htext : Separated Eq olds text)
      (hchanged : Separated Eq news changed) :
      EachElement change ('[' :: (text ++ [']'])) ('[' :: (changed ++ [']']))

/-- How the value under a key is changed: as the first field of this name says, or not at all if
there is none. -/
def MemberChange : List (String × Change) → String → Change
  | [], _ => Kept
  | (name, change) :: slots, key => if key = name then change else MemberChange slots key

/-- The values of the first fields are changed in order. -/
inductive PartsChange : List (String × Change) → List (List Char) → List (List Char) → Prop
  | nil (slots : List (String × Change)) : PartsChange slots [] []
  | cons {name : String} {change : Change} {slots : List (String × Change)} {old new : List Char}
      {olds news : List (List Char)} (hchange : change old new)
      (hrest : PartsChange slots olds news) :
      PartsChange ((name, change) :: slots) (old :: olds) (new :: news)

/-- Every field of a record is changed, in either form. -/
inductive EachField (slots : List (String × Change)) : Change
  | object {olds news : List (String × List Char)} {text changed : List Char}
      (heach : List.Forall₂
        (fun old new => old.1 = new.1 ∧ MemberChange slots new.1 old.2 new.2) olds news)
      (htext : MembersText olds text) (hchanged : MembersText news changed) :
      EachField slots ('\x7b' :: (text ++ ['\x7d'])) ('\x7b' :: (changed ++ ['\x7d']))
  | list {olds news : List (List Char)} {text changed : List Char}
      (heach : PartsChange slots olds news) (htext : Separated Eq olds text)
      (hchanged : Separated Eq news changed) :
      EachField slots ('[' :: (text ++ [']'])) ('[' :: (changed ++ [']']))

/-- When the one decoder reads the changed text, the other one reads the text before, wherever it
stands. -/
structure Reflects {α β : Type} (change : Change) (read : Decoder α) (other : Decoder β) :
    Prop where
  skims : Skims read
  formed : ∀ old new, change old new → WellFormed new
  reflects : ∀ old new value, change old new → Accepts read new value →
    ∃ found, Reads other old found

/-- Whatever the decoder reads may stay as it is under the change. -/
def Allows {α : Type} (change : Change) (read : Decoder α) : Prop :=
  ∀ text value, WellFormed text → Accepts read text value → change text text

section Heads

variable {text : List Char}

theorem head?_of_append {rest tail : List Char} {c : Char} (hopens : Opens text)
    (htext : text ++ rest = c :: tail) : text.head? = some c := by
  obtain ⟨d, more, rfl, -⟩ := hopens
  exact congrArg some (List.cons.inj htext).1

/-- What a well-formed text is can be seen from its first character. -/
theorem WellFormed.cases_head (hformed : WellFormed text) {c : Char}
    (hhead : text.head? = some c) :
    c = 'n' ∧ text = "null".toList ∨
      (∃ value : Bool, c = (if value then 't' else 'f') ∧
        text = (if value then "true" else "false").toList) ∨
      (c = '-' ∨ isDigit c = true) ∧ (∃ number, IsNumber number text) ∨
      c = '"' ∧ IsString text ∨
      c = '[' ∧ (∃ (items : List Unit) (inner : List Char),
        Separated (fun _ => WellFormed) items inner ∧ text = '[' :: (inner ++ [']'])) ∨
      c = '\x7b' ∧ ∃ (members : List (Unit × Unit)) (inner : List Char),
        Separated (MemberText (fun _ => IsString) (fun _ => WellFormed)) members inner ∧
          text = '\x7b' :: (inner ++ ['\x7d']) := by
  cases hformed with
  | null => exact .inl ⟨(Option.some.inj hhead).symm, rfl⟩
  | boolean value =>
      refine .inr (.inl ⟨value, ?_, rfl⟩)
      cases value <;> exact (Option.some.inj hhead).symm
  | number hnumber =>
      obtain ⟨d, tail, rfl, hd⟩ := hnumber.exists_cons
      obtain rfl : d = c := Option.some.inj hhead
      exact .inr (.inr (.inl ⟨hd, _, hnumber⟩))
  | string hstring =>
      rw [hstring.head?] at hhead
      exact .inr (.inr (.inr (.inl ⟨(Option.some.inj hhead).symm, hstring⟩)))
  | list hitems =>
      exact .inr (.inr (.inr (.inr (.inl ⟨(Option.some.inj hhead).symm, _, _, hitems, rfl⟩))))
  | object hmembers =>
      exact .inr (.inr (.inr (.inr (.inr ⟨(Option.some.inj hhead).symm, _, _, hmembers, rfl⟩))))

theorem WellFormed.eq_null (hformed : WellFormed text) (hhead : text.head? = some 'n') :
    text = "null".toList := by
  simpa [isDigit] using hformed.cases_head hhead

theorem WellFormed.eq_boolean (hformed : WellFormed text) (value : Bool)
    (hhead : text.head? = some (if value then 't' else 'f')) :
    text = (if value then "true" else "false").toList := by
  have hcases := hformed.cases_head hhead
  cases value <;> simpa [isDigit] using hcases

theorem WellFormed.exists_number (hformed : WellFormed text) {c : Char}
    (hhead : text.head? = some c) (hc : c = '-' ∨ isDigit c = true) :
    ∃ number, IsNumber number text := by
  have hother : ∀ d, d ≠ '-' → isDigit d = false → c ≠ d := fun _ => ne_of_starts_number hc
  have hnumber : (c = '-' ∨ isDigit c = true) ∧ ∃ number, IsNumber number text := by
    simpa [hother, isDigit] using hformed.cases_head hhead
  exact hnumber.2

theorem WellFormed.isString (hformed : WellFormed text) (hhead : text.head? = some '"') :
    IsString text := by
  simpa [isDigit] using hformed.cases_head hhead

/-- What starts like a list is a list. -/
theorem WellFormed.exists_items (hformed : WellFormed text) (hhead : text.head? = some '[') :
    ∃ (items : List Unit) (inner : List Char), Separated (fun _ => WellFormed) items inner ∧
      text = '[' :: (inner ++ [']']) := by
  simpa [isDigit] using hformed.cases_head hhead

/-- What starts like an object is an object. -/
theorem WellFormed.exists_members (hformed : WellFormed text)
    (hhead : text.head? = some '\x7b') :
    ∃ (members : List (Unit × Unit)) (inner : List Char),
      Separated (MemberText (fun _ => IsString) (fun _ => WellFormed)) members inner ∧
        text = '\x7b' :: (inner ++ ['\x7d']) := by
  simpa [isDigit] using hformed.cases_head hhead

end Heads

section Scalars

variable {α β γ δ : Type} {read : Decoder α} {other : Decoder β} {change : Change}

theorem allows_kept (read : Decoder α) : Allows Kept read :=
  fun _ _ hformed _ => ⟨rfl, hformed⟩

theorem Allows.map (hallows : Allows change read) (f : α → γ) :
    Allows change (Decoder.map f read) := by
  intro text value hformed haccepts
  obtain ⟨found, hfound, -⟩ := accepts_map haccepts
  exact hallows text found hformed hfound

theorem Allows.either (hallows : Allows change read) (more : Change) :
    Allows (change.either more) read :=
  fun text value hformed haccepts => Or.inl (hallows text value hformed haccepts)

theorem Reflects.map (hreflects : Reflects change read other) (f : α → γ) (g : β → δ) :
    Reflects change (Decoder.map f read) (Decoder.map g other) where
  skims := hreflects.skims.map f
  formed := hreflects.formed
  reflects := by
    intro old new value hchange haccepts
    obtain ⟨found, hfound, -⟩ := accepts_map haccepts
    obtain ⟨raw, hraw⟩ := hreflects.reflects old new found hchange hfound
    exact ⟨g raw, hraw.map g⟩

theorem Reflects.either {more : Change} (hfirst : Reflects change read other)
    (hsecond : Reflects more read other) : Reflects (change.either more) read other where
  skims := hfirst.skims
  formed := fun old new hchange => hchange.elim (hfirst.formed old new) (hsecond.formed old new)
  reflects := fun old new value hchange haccepts =>
    hchange.elim (fun hchange => hfirst.reflects old new value hchange haccepts)
      (fun hchange => hsecond.reflects old new value hchange haccepts)

theorem reflects_boolean : Reflects Kept Decoder.boolean Decoder.boolean where
  skims := skims_boolean
  formed := fun _ _ hkept => hkept.2
  reflects := by
    rintro text _ value ⟨rfl, hformed⟩ ⟨blanks, rest, hblanks, -, hread⟩
    rw [Decoder.boolean, hformed.skipBlank_append hblanks] at hread
    split at hread
    · next tail htail =>
      rw [hformed.eq_boolean true (head?_of_append hformed.opens htail)]
      exact ⟨true, reads_boolean true⟩
    · next tail htail =>
      rw [hformed.eq_boolean false (head?_of_append hformed.opens htail)]
      exact ⟨false, reads_boolean false⟩
    · cases hread

theorem reflects_integer (low high : Int) (wanted : Wanted) :
    Reflects Kept (Decoder.integerBetween low high wanted)
      (Decoder.integerBetween low high wanted) where
  skims := skims_integerBetween low high wanted
  formed := fun _ _ hkept => hkept.2
  reflects := by
    rintro text _ value ⟨rfl, hformed⟩ ⟨blanks, rest, hblanks, hends, hread⟩
    have hnumber : ∃ number, IsNumber number text := by
      have hstart := hread
      simp only [Decoder.integerBetween, hformed.skipBlank_append hblanks] at hstart
      split at hstart
      · cases hstart
      · next c tail htail =>
        split at hstart
        · next hc =>
          exact hformed.exists_number (head?_of_append hformed.opens htail) (by simpa using hc)
        · cases hstart
    obtain ⟨number, hnumber⟩ := hnumber
    obtain ⟨hvalue, -⟩ := (integerBetween_append_iff hnumber hblanks hends).1 hread
    exact ⟨value, hformed.opens, fun _ _ hbefore hafter =>
      (integerBetween_append_iff hnumber hbefore hafter).2 ⟨hvalue, rfl⟩⟩

/-- A string that is read is spelled. -/
theorem spelled_of_accepts {text : List Char} {value : String} (hformed : WellFormed text)
    (haccepts : Accepts Decoder.string text value) : Spelled value text := by
  obtain ⟨blanks, rest, hblanks, -, hread⟩ := haccepts
  rw [Decoder.string, hformed.skipBlank_append hblanks] at hread
  split at hread
  · next tail htail =>
    have hstring := hformed.isString (head?_of_append hformed.opens htail)
    obtain ⟨body, rfl⟩ := List.head?_eq_some_iff.1 hstring.head?
    obtain rfl : body ++ rest = tail := (List.cons.inj htail).2
    exact (hstring.spelled hread).2
  · cases hread

theorem reflects_string : Reflects Kept Decoder.string Decoder.string where
  skims := skims_string
  formed := fun _ _ hkept => hkept.2
  reflects := by
    rintro text _ value ⟨rfl, hformed⟩ haccepts
    exact ⟨value, reads_string (spelled_of_accepts hformed haccepts)⟩

theorem reflects_respelled : Reflects Respelled Decoder.string Decoder.string where
  skims := skims_string
  formed := by
    rintro old new ⟨-, value, hspelled⟩
    exact .string hspelled.isString
  reflects := by
    rintro old new - ⟨⟨value, hspelled⟩, -⟩ -
    exact ⟨value, reads_string hspelled⟩

theorem Reflects.optional (hreflects : Reflects change read other)
    (hnull : ∀ old new, change old new → old.head? ≠ some 'n' ∧ new.head? ≠ some 'n') :
    Reflects change (Decoder.optional read) (Decoder.optional other) where
  skims := hreflects.skims.optional
  formed := hreflects.formed
  reflects := by
    intro old new option hchange haccepts
    obtain ⟨hold, hnew⟩ := hnull old new hchange
    have hopens := (hreflects.formed old new hchange).opens
    obtain ⟨value, -, hvalue⟩ := accepts_optional hopens hnew haccepts
    obtain ⟨found, hfound⟩ := hreflects.reflects old new value hchange hvalue
    exact ⟨some found, hfound.optional hold⟩

theorem Reflects.optional_kept (hreflects : Reflects Kept read other) :
    Reflects Kept (Decoder.optional read) (Decoder.optional other) where
  skims := hreflects.skims.optional
  formed := hreflects.formed
  reflects := by
    rintro text _ option ⟨rfl, hformed⟩ haccepts
    by_cases hhead : text.head? = some 'n'
    · rw [hformed.eq_null hhead]
      exact ⟨none, reads_null other⟩
    · obtain ⟨value, -, hvalue⟩ := accepts_optional hformed.opens hhead haccepts
      obtain ⟨found, hfound⟩ := hreflects.reflects text text value ⟨rfl, hformed⟩ hvalue
      exact ⟨some found, hfound.optional hhead⟩

end Scalars

section Names

variable {α : Type} {names : List (String × α)}

theorem oneOf_skipBlank (s : List Char) :
    Decoder.oneOf names s = Decoder.oneOf names (skipBlank s) := by
  rw [Decoder.oneOf, Decoder.oneOf, skipBlank_skipBlank]

theorem null_of_unit {text blanks rest left : List Char} (hformed : WellFormed text)
    (hblanks : AllBlank blanks) (hends : Ends rest) {value : Unit}
    (hread : Decoder.unit (blanks ++ (text ++ rest)) = .ok (value, left)) :
    text = "null".toList ∧ left = rest := by
  have hleft := skims_unit.rest_eq hformed hblanks hends hread
  rw [Decoder.unit, hformed.skipBlank_append hblanks] at hread
  split at hread
  · next tail htail => exact ⟨hformed.eq_null (head?_of_append hformed.opens htail), hleft⟩
  · cases hread

/-- Where a name is read from an object, its first member has the name for its key and null for
its value, and nothing follows it. -/
theorem member_of_oneOf {member : Unit × Unit} {text s rest left : List Char} {value : α}
    (htext : MemberText (fun _ => IsString) (fun _ => WellFormed) member text) (hends : Ends rest)
    (hs : skipBlank s = text ++ rest)
    (hread : Decoder.oneOf names ('\x7b' :: s) = .ok (value, left)) :
    ∃ name, names.lookup name = some value ∧ MemberText Spelled Eq (name, "null".toList) text ∧
      skipBlank rest = '\x7d' :: left := by
  cases htext with
  | @intro _ _ written before after text hname hbefore hafter hformed =>
      obtain ⟨body, rfl⟩ := List.head?_eq_some_iff.1 hname.head?
      have hbrace : skipBlank ('\x7b' :: s) = '\x7b' :: s := skipBlank_token (by decide) s
      have hquote : skipBlank s =
          '"' :: (body ++ (before ++ ':' :: (after ++ (text ++ rest)))) := by
        simpa using hs
      simp only [Decoder.oneOf, hbrace, hquote] at hread
      obtain ⟨⟨name, t⟩, hkey, hread⟩ := bind_eq_ok.1 hread
      obtain ⟨rfl, hspelled⟩ := hname.spelled hkey
      obtain ⟨found, hfound, hread⟩ := bind_eq_ok.1 hread
      obtain ⟨u, hcolon, hread⟩ := bind_eq_ok.1 hread
      rw [colon_append hbefore] at hcolon
      obtain rfl := Except.ok.inj hcolon
      obtain ⟨⟨_, v⟩, hunit, hend⟩ := bind_eq_ok.1 hread
      obtain ⟨rfl, rfl⟩ := null_of_unit hformed hafter hends hunit
      dsimp only at hend
      split at hend
      · cases hend
      · next tail hclose =>
        obtain ⟨rfl, rfl⟩ := Prod.mk.inj (Except.ok.inj hend)
        unfold Decoder.variant at hfound
        split at hfound
        · next hlookup =>
          obtain rfl := Except.ok.inj hfound
          exact ⟨name, hlookup, .intro hspelled hbefore hafter rfl, hclose⟩
        · cases hfound
      · cases hend

theorem oneOf_of_member {name : String} {text s rest left : List Char} {value : α}
    (hlookup : names.lookup name = some value)
    (htext : MemberText Spelled Eq (name, "null".toList) text)
    (hs : skipBlank s = text ++ rest) (hclose : skipBlank rest = '\x7d' :: left) :
    Decoder.oneOf names ('\x7b' :: s) = .ok (value, left) := by
  cases htext with
  | @intro _ _ written before after text hname hbefore hafter hsame =>
      subst hsame
      obtain ⟨pieces, hpieces, rfl⟩ := hname
      have hbrace : skipBlank ('\x7b' :: s) = '\x7b' :: s := skipBlank_token (by decide) s
      have hquote : skipBlank s =
          '"' :: (pieces.flatten ++ '"' ::
            (before ++ ':' :: (after ++ ("null".toList ++ rest)))) := by
        simpa using hs
      have hunit : Decoder.unit (after ++ ("null".toList ++ rest)) = .ok ((), rest) := by
        rw [Decoder.unit, WellFormed.null.skipBlank_append hafter]
        simp [literal, bind, Except.bind]
      simp only [Decoder.oneOf, hbrace, hquote, stringTail_of_spelled hpieces, Decoder.variant,
        hlookup, colon_append hbefore, hunit, hclose, bind, Except.bind]

/-- A name that is read from an object is read wherever the object stands. -/
theorem reads_oneOf_object {text : List Char} {members : List (Unit × Unit)}
    (hmembers : Separated (MemberText (fun _ => IsString) (fun _ => WellFormed)) members text)
    {rest left : List Char} {value : α}
    (hread : Decoder.oneOf names ('\x7b' :: (text ++ '\x7d' :: rest)) = .ok (value, left)) :
    Reads (Decoder.oneOf names) ('\x7b' :: (text ++ ['\x7d'])) value := by
  have hclose : isBlank '\x7d' = false := by decide
  cases hmembers with
  | nil hblanks =>
      have hbrace :=
        skipBlank_token (show isBlank '\x7b' = false by decide) (text ++ '\x7d' :: rest)
      simp [Decoder.oneOf, hbrace, skipBlank_append_token hblanks hclose] at hread
  | @last member before text after hbefore hmember hafter =>
      have hskip : ∀ rest, skipBlank (before ++ (text ++ after) ++ '\x7d' :: rest) =
          text ++ (after ++ '\x7d' :: rest) := by
        intro rest
        rw [List.append_assoc, List.append_assoc,
          hmember.skipBlank_append (fun _ _ hstring => hstring.head?) hbefore]
      obtain ⟨name, hlookup, hnamed, -⟩ := member_of_oneOf hmember
        (ends_append hafter (ends_cons (by simp) rest)) (hskip rest) hread
      have hopens : Opens ('\x7b' :: (before ++ (text ++ after) ++ ['\x7d'])) :=
        ⟨'\x7b', _, rfl, by decide, by decide⟩
      refine Reads.of_skipBlank hopens oneOf_skipBlank fun rest _ => ?_
      rw [List.cons_append, List.append_assoc, List.singleton_append]
      exact oneOf_of_member hlookup hnamed (hskip rest) (skipBlank_append_token hafter hclose rest)
  | @more member next members before text after texts hbefore hmember hafter _ =>
      have hskip : skipBlank (before ++ (text ++ (after ++ ',' :: texts)) ++ '\x7d' :: rest) =
          text ++ (after ++ ',' :: (texts ++ '\x7d' :: rest)) := by
        rw [List.append_assoc, List.append_assoc, List.append_assoc, List.cons_append,
          hmember.skipBlank_append (fun _ _ hstring => hstring.head?) hbefore]
      obtain ⟨name, -, -, hend⟩ := member_of_oneOf hmember
        (ends_append hafter (ends_cons (by simp) _)) hskip hread
      rw [skipBlank_append_token hafter (by decide)] at hend
      cases hend

theorem reflects_oneOf (names : List (String × α)) :
    Reflects Kept (Decoder.oneOf names) (Decoder.oneOf names) where
  skims := skims_oneOf names
  formed := fun _ _ hkept => hkept.2
  reflects := by
    rintro text _ value ⟨rfl, hformed⟩ ⟨blanks, rest, hblanks, hends, hread⟩
    rw [oneOf_skipBlank, hformed.skipBlank_append hblanks] at hread
    have hstart := hread
    rw [Decoder.oneOf, hformed.opens.skipBlank_append] at hstart
    split at hstart
    · cases hstart
    · next tail htail =>
      have hstring := hformed.isString (head?_of_append hformed.opens htail)
      obtain ⟨body, rfl⟩ := List.head?_eq_some_iff.1 hstring.head?
      obtain rfl : body ++ rest = tail := (List.cons.inj htail).2
      obtain ⟨⟨name, left⟩, hname, hstart⟩ := bind_eq_ok.1 hstart
      obtain ⟨found, hfound, -⟩ := bind_eq_ok.1 hstart
      unfold Decoder.variant at hfound
      split at hfound
      · next hlookup => exact ⟨_, reads_oneOf hlookup (hstring.spelled hname).2⟩
      · cases hfound
    · next tail htail =>
      obtain ⟨members, inner, hmembers, rfl⟩ :=
        hformed.exists_members (head?_of_append hformed.opens htail)
      rw [List.cons_append, List.append_assoc, List.singleton_append] at hread
      exact ⟨value, reads_oneOf_object hmembers hread⟩
    · cases hstart

end Names

section Lists

variable {α β : Type} {read : Decoder α} {other : Decoder β} {change : Change}

/-- Parts are written where values are that belong to them. -/
theorem Separated.of_forall₂ {P : List Char → α → Prop} {parts : List (List Char)}
    {text : List Char} (hparts : Separated Eq parts text) {values : List α}
    (hvalues : List.Forall₂ P parts values) :
    Separated (fun value part => P part value) values text := by
  induction hparts generalizing values with
  | nil hblanks =>
      cases hvalues
      exact .nil hblanks
  | last hbefore hsame hafter =>
      subst hsame
      cases hvalues with
      | cons hvalue hnone =>
          cases hnone
          exact .last hbefore hvalue hafter
  | more hbefore hsame hafter _ ih =>
      subst hsame
      cases hvalues with
      | cons hvalue hothers =>
          have hmore := ih hothers
          cases hothers with
          | cons _ _ => exact .more hbefore hvalue hafter hmore

/-- Separated values are written by parts of the text. -/
theorem Separated.exists_parts {P : α → List Char → Prop} {values : List α} {text : List Char}
    (hvalues : Separated P values text) :
    ∃ parts, Separated Eq parts text ∧ List.Forall₂ P values parts := by
  induction hvalues with
  | nil hblanks => exact ⟨[], .nil hblanks, .nil⟩
  | @last _ before text after hbefore htext hafter =>
      exact ⟨[text], .last hbefore rfl hafter, .cons htext .nil⟩
  | @more _ _ _ before text after texts hbefore htext hafter _ ih =>
      obtain ⟨parts, hparts, hall⟩ := ih
      cases hall with
      | @cons _ part _ parts hpart hothers =>
          exact ⟨text :: part :: parts, .more hbefore rfl hafter hparts,
            .cons htext (.cons hpart hothers)⟩

theorem Reflects.forall₂ (hreflects : Reflects change read other) {olds news : List (List Char)}
    (heach : List.Forall₂ change olds news) {values : List α}
    (haccepts : List.Forall₂ (Accepts read) news values) :
    ∃ found, List.Forall₂ (Reads other) olds found := by
  induction heach generalizing values with
  | nil => exact ⟨[], .nil⟩
  | cons hchange _ ih =>
      cases haccepts with
      | cons hvalue hothers =>
          obtain ⟨found, hfound⟩ := hreflects.reflects _ _ _ hchange hvalue
          obtain ⟨more, hmore⟩ := ih hothers
          exact ⟨found :: more, .cons hfound hmore⟩

theorem forall_mem_of_forall₂ {values : List α} {others : List β} {P : α → β → Prop}
    {Q : β → Prop} (heach : List.Forall₂ P values others)
    (himp : ∀ value other, P value other → Q other) : ∀ other ∈ others, Q other := by
  induction heach with
  | nil => simp
  | cons hfirst _ ih => exact List.forall_mem_cons.2 ⟨himp _ _ hfirst, ih⟩

theorem Reflects.list (hreflects : Reflects change read other) :
    Reflects (EachElement change) (Decoder.list read) (Decoder.list other) where
  skims := hreflects.skims.list
  formed := by
    rintro old new ⟨heach, -, hchanged⟩
    exact wellFormed_list hchanged (forall_mem_of_forall₂ heach hreflects.formed)
  reflects := by
    rintro old new values ⟨heach, htext, hchanged⟩ haccepts
    have hformed := forall_mem_of_forall₂ heach hreflects.formed
    obtain ⟨found, hfound⟩ :=
      hreflects.forall₂ heach (accepts_list hreflects.skims hchanged hformed haccepts)
    exact ⟨found, reads_list (htext.of_forall₂ hfound)⟩

/-- A list that is read has elements that are read. -/
theorem Allows.list (hallows : Allows change read) (hskims : Skims read) :
    Allows (EachElement change) (Decoder.list read) := by
  intro text values hformed haccepts
  have hhead : text.head? = some '[' := by
    obtain ⟨blanks, rest, hblanks, -, hread⟩ := haccepts
    rw [Decoder.list, hformed.skipBlank_append hblanks] at hread
    split at hread
    · next tail htail => exact head?_of_append hformed.opens htail
    · cases hread
  obtain ⟨items, inner, hitems, rfl⟩ := hformed.exists_items hhead
  obtain ⟨parts, hparts, hall⟩ := hitems.exists_parts
  have hparted := forall_mem_of_forall₂ hall fun _ _ hformed => hformed
  have hvalues := accepts_list hskims hparts hparted haccepts
  refine .intro (List.forall₂_same.2 fun part hpart => ?_) hparts hparts
  obtain ⟨value, hvalue⟩ := exists_accepts_of_mem hvalues hpart
  exact hallows part value (hparted part hpart) hvalue

/-- A list that is kept has kept elements. -/
theorem Reflects.list_kept (hreflects : Reflects Kept read other) :
    Reflects Kept (Decoder.list read) (Decoder.list other) where
  skims := hreflects.skims.list
  formed := fun _ _ hkept => hkept.2
  reflects := by
    rintro text _ values ⟨rfl, hformed⟩ haccepts
    have hchange := (allows_kept read).list hreflects.skims text values hformed haccepts
    exact hreflects.list.reflects text text values hchange haccepts

end Lists

end OpeningTimes.Json

import OpeningTimes.Proofs.Json.Layout
import OpeningTimes.Proofs.Json.NumberForm

/-!
Values of any shape.  Whatever is a JSON value is passed over to its end, however deep it nests
and whatever its strings and numbers stand for.
-/

namespace OpeningTimes.Json

/-- A text that is a JSON value.  Of strings and numbers only the form counts, and keys may
repeat. -/
inductive WellFormed : List Char → Prop
  | null : WellFormed "null".toList
  | boolean (value : Bool) : WellFormed (if value then "true" else "false").toList
  | number {number : NumberText} {text : List Char} (hnumber : IsNumber number text) :
      WellFormed text
  | string {text : List Char} (hstring : IsString text) : WellFormed text
  | list {items : List Unit} {text : List Char}
      (hitems : Separated (fun _ => WellFormed) items text) : WellFormed ('[' :: (text ++ [']']))
  | object {members : List (Unit × Unit)} {text : List Char}
      (hmembers : Separated (MemberText (fun _ => IsString) (fun _ => WellFormed)) members text) :
      WellFormed ('\x7b' :: (text ++ ['\x7d']))

/-- The text is passed over, in at most twice as many steps as it has characters and one more. -/
structure Skips (text : List Char) : Prop where
  opens : Opens text
  skips : ∀ rest rounds, Ends rest → 2 * text.length ≤ rounds →
    skipValueIn (rounds + 1) (text ++ rest) = .ok rest

theorem colon_append {before : List Char} (hbefore : AllBlank before) (rest : List Char) :
    colon (before ++ ':' :: rest) = .ok rest := by
  have hcolon := skipBlank_append_token hbefore (show isBlank ':' = false by decide) rest
  simp [colon, hcolon]

theorem skipValueIn_skipBlank (rounds : Nat) (s : List Char) :
    skipValueIn (rounds + 1) (skipBlank s) = skipValueIn (rounds + 1) s := by
  rw [skipValueIn, skipValueIn, skipBlank_skipBlank]

theorem Skips.after_blanks {blanks text rest : List Char} (hskips : Skips text)
    (hblanks : AllBlank blanks) (hends : Ends rest) {rounds : Nat}
    (hrounds : 2 * text.length ≤ rounds) :
    skipValueIn (rounds + 1) (blanks ++ (text ++ rest)) = .ok rest := by
  rw [← skipValueIn_skipBlank, skipBlank_append hblanks, hskips.opens.skipBlank_append]
  exact hskips.skips rest rounds hends hrounds

section Scalars

/-- A value that is no list and no object is passed over at once. -/
theorem skips_scalar {c : Char} {tail : List Char} (hblank : isBlank c = false)
    (hclose : c ≠ ']') (hlist : c ≠ '[') (hobject : c ≠ '\x7b')
    (hskips : ∀ rest, Ends rest → skipScalar c (tail ++ rest) = .ok rest) :
    Skips (c :: tail) where
  opens := ⟨c, tail, rfl, hblank, hclose⟩
  skips := by
    intro rest rounds hends _
    simp [skipValueIn, skipBlank_token hblank, hlist, hobject, hskips rest hends]

theorem skips_null : Skips "null".toList := by
  refine skips_scalar (by decide) (by decide) (by decide) (by decide) ?_
  intro rest _
  exact literal_append ['u', 'l', 'l'] rest

theorem skips_boolean (value : Bool) : Skips (if value then "true" else "false").toList := by
  cases value with
  | false =>
      refine skips_scalar (by decide) (by decide) (by decide) (by decide) ?_
      intro rest _
      exact literal_append ['a', 'l', 's', 'e'] rest
  | true =>
      refine skips_scalar (by decide) (by decide) (by decide) (by decide) ?_
      intro rest _
      exact literal_append ['r', 'u', 'e'] rest

theorem skips_string {text : List Char} (hstring : IsString text) : Skips text := by
  obtain ⟨pieces, hpieces, rfl⟩ := hstring
  refine skips_scalar (by decide) (by decide) (by decide) (by decide) ?_
  intro rest _
  simpa [skipScalar] using skipStringTail_flatten hpieces rest

/-- A number is passed over as far as it is read. -/
theorem skipScalar_number {c : Char} {s rest : List Char} {number : NumberText}
    (hc : c = '-' ∨ isDigit c = true)
    (hread : numberText .badNumber (c :: s) = .ok (number, rest)) : skipScalar c s = .ok rest := by
  have hother : ∀ d, d ≠ '-' → isDigit d = false → c ≠ d := fun _ => ne_of_starts_number hc
  have hstart : (c = '-' || isDigit c) = true := by
    simpa using hc
  have hnull : c ≠ 'n' := hother 'n' (by decide) (by decide)
  have htrue : c ≠ 't' := hother 't' (by decide) (by decide)
  have hfalse : c ≠ 'f' := hother 'f' (by decide) (by decide)
  have hquote : c ≠ '"' := hother '"' (by decide) (by decide)
  simp [skipScalar, hnull, htrue, hfalse, hquote, hstart, hread, bind, Except.bind]

theorem skips_number {number : NumberText} {text : List Char} (hnumber : IsNumber number text) :
    Skips text := by
  have hread : ∀ rest, Ends rest → numberText .badNumber (text ++ rest) = .ok (number, rest) :=
    fun _ hends => numberText_append .badNumber hnumber hends
  obtain ⟨c, tail, rfl, hc⟩ := hnumber.exists_cons
  have hother : ∀ d, d ≠ '-' → isDigit d = false → c ≠ d := fun _ => ne_of_starts_number hc
  refine skips_scalar (isBlank_of_starts_number hc) (hother ']' (by decide) (by decide))
    (hother '[' (by decide) (by decide)) (hother '\x7b' (by decide) (by decide)) ?_
  exact fun rest hends => skipScalar_number hc (hread rest hends)

end Scalars

section Containers

theorem skipElementsIn_skipBlank (rounds : Nat) (s : List Char) :
    skipElementsIn (rounds + 2) (skipBlank s) = skipElementsIn (rounds + 2) s := by
  rw [skipElementsIn, skipElementsIn, skipValueIn_skipBlank]

theorem skipElementsIn_comma {s blanks texts : List Char} (rounds : Nat)
    (hblanks : AllBlank blanks) (hskip : skipValueIn rounds s = .ok (blanks ++ ',' :: texts)) :
    skipElementsIn (rounds + 1) s = skipElementsIn rounds texts := by
  have hcomma := skipBlank_append_token hblanks (show isBlank ',' = false by decide) texts
  simp [skipElementsIn, hskip, hcomma, bind, Except.bind]

theorem skipElementsIn_close {s blanks rest : List Char} (rounds : Nat)
    (hblanks : AllBlank blanks) (hskip : skipValueIn rounds s = .ok (blanks ++ ']' :: rest)) :
    skipElementsIn (rounds + 1) s = .ok rest := by
  have hclose := skipBlank_append_token hblanks (show isBlank ']' = false by decide) rest
  simp [skipElementsIn, hskip, hclose, bind, Except.bind]

theorem skipElementsIn_separated {items : List Unit} {text : List Char}
    (hitems : Separated (fun _ => Skips) items text) (hne : items ≠ []) (rest : List Char)
    {rounds : Nat} (hrounds : 2 * text.length ≤ rounds) :
    skipElementsIn (rounds + 2) (text ++ ']' :: rest) = .ok rest := by
  induction hitems generalizing rounds with
  | nil _ => exact absurd rfl hne
  | @last _ before text after hbefore htext hafter =>
      simp only [List.length_append] at hrounds
      have hends : Ends (after ++ ']' :: rest) := ends_append hafter (ends_cons (by simp) rest)
      simp only [List.append_assoc]
      exact skipElementsIn_close (rounds + 1) hafter
        (htext.after_blanks hbefore hends (by omega))
  | @more _ _ _ before text after texts hbefore htext hafter _ ih =>
      simp only [List.length_append, List.length_cons] at hrounds
      obtain ⟨fewer, rfl⟩ : ∃ fewer, rounds = fewer + 1 := ⟨rounds - 1, by omega⟩
      have hends : Ends (after ++ ',' :: (texts ++ ']' :: rest)) :=
        ends_append hafter (ends_cons (by simp) _)
      simp only [List.append_assoc, List.cons_append]
      rw [skipElementsIn_comma (fewer + 2) hafter (htext.after_blanks hbefore hends (by omega))]
      exact ih (List.cons_ne_nil _ _) (by omega)

theorem skips_list {items : List Unit} {text : List Char}
    (hitems : Separated (fun _ => Skips) items text) : Skips ('[' :: (text ++ [']'])) where
  opens := ⟨'[', _, rfl, by decide, by decide⟩
  skips := by
    intro rest rounds _ hrounds
    simp only [List.length_cons, List.length_append, List.length_nil] at hrounds
    obtain ⟨fewer, rfl⟩ : ∃ fewer, rounds = fewer + 2 := ⟨rounds - 2, by omega⟩
    have hbracket : skipBlank ('[' :: (text ++ ']' :: rest)) = '[' :: (text ++ ']' :: rest) :=
      skipBlank_token (by decide) _
    rw [List.cons_append, List.append_assoc, List.singleton_append, skipValueIn, hbracket]
    cases items with
    | nil =>
        cases hitems with
        | nil hblanks =>
            simp [skipBlank_append_token hblanks (show isBlank ']' = false by decide) rest]
    | cons item items =>
        obtain ⟨c, tail, hskip, hopen⟩ :=
          hitems.skipBlank_append (fun _ hskips => hskips.opens) (']' :: rest)
        have hall := skipElementsIn_separated hitems (List.cons_ne_nil item items) rest
          (show 2 * text.length ≤ fewer by omega)
        rw [← skipElementsIn_skipBlank, hskip] at hall
        simp [hskip, hopen, hall]

theorem skipMembersIn_skipBlank (rounds : Nat) (s : List Char) :
    skipMembersIn (rounds + 1) (skipBlank s) = skipMembersIn (rounds + 1) s := by
  rw [skipMembersIn, skipMembersIn, skipBlank_skipBlank]

/-- A member is passed over in three steps: its key, the colon and its value. -/
theorem MemberText.skips {member : Unit × Unit} {before text rest : List Char}
    (htext : MemberText (fun _ => IsString) (fun _ => Skips) member text)
    (hbefore : AllBlank before) (hends : Ends rest) {rounds : Nat}
    (hrounds : 2 * text.length ≤ rounds) :
    ∃ t u v, skipBlank (before ++ (text ++ rest)) = '"' :: t ∧ skipStringTail t = .ok u ∧
      colon u = .ok v ∧ skipValueIn (rounds + 1) v = .ok rest := by
  cases htext with
  | @intro _ _ name middle after text hname hmiddle hafter hvalue =>
      obtain ⟨pieces, hpieces, rfl⟩ := hname
      simp only [List.length_append, List.length_cons] at hrounds
      refine ⟨pieces.flatten ++ '"' :: (middle ++ ':' :: (after ++ (text ++ rest))),
        middle ++ ':' :: (after ++ (text ++ rest)), after ++ (text ++ rest), ?_,
        skipStringTail_flatten hpieces _, colon_append hmiddle _,
        hvalue.after_blanks hafter hends (by omega)⟩
      rw [List.cons_append, List.cons_append, skipBlank_append_token hbefore (by decide)]
      simp

theorem skipMembersIn_comma {member : Unit × Unit} {before text after texts : List Char}
    (htext : MemberText (fun _ => IsString) (fun _ => Skips) member text)
    (hbefore : AllBlank before) (hafter : AllBlank after) {rounds : Nat}
    (hrounds : 2 * text.length ≤ rounds) :
    skipMembersIn (rounds + 2) (before ++ (text ++ (after ++ ',' :: texts))) =
      skipMembersIn (rounds + 1) texts := by
  have hends : Ends (after ++ ',' :: texts) := ends_append hafter (ends_cons (by simp) texts)
  obtain ⟨t, u, v, hquote, hkey, hcolon, hvalue⟩ := htext.skips hbefore hends hrounds
  have hcomma := skipBlank_append_token hafter (show isBlank ',' = false by decide) texts
  simp [skipMembersIn, hquote, hkey, hcolon, hvalue, hcomma, bind, Except.bind]

theorem skipMembersIn_close {member : Unit × Unit} {before text after rest : List Char}
    (htext : MemberText (fun _ => IsString) (fun _ => Skips) member text)
    (hbefore : AllBlank before) (hafter : AllBlank after) {rounds : Nat}
    (hrounds : 2 * text.length ≤ rounds) :
    skipMembersIn (rounds + 2) (before ++ (text ++ (after ++ '\x7d' :: rest))) = .ok rest := by
  have hends : Ends (after ++ '\x7d' :: rest) := ends_append hafter (ends_cons (by simp) rest)
  obtain ⟨t, u, v, hquote, hkey, hcolon, hvalue⟩ := htext.skips hbefore hends hrounds
  have hclose := skipBlank_append_token hafter (show isBlank '\x7d' = false by decide) rest
  simp [skipMembersIn, hquote, hkey, hcolon, hvalue, hclose, bind, Except.bind]

theorem skipMembersIn_separated {members : List (Unit × Unit)} {text : List Char}
    (hmembers : Separated (MemberText (fun _ => IsString) (fun _ => Skips)) members text)
    (hne : members ≠ []) (rest : List Char) {rounds : Nat} (hrounds : 2 * text.length ≤ rounds) :
    skipMembersIn (rounds + 2) (text ++ '\x7d' :: rest) = .ok rest := by
  induction hmembers generalizing rounds with
  | nil _ => exact absurd rfl hne
  | last hbefore htext hafter =>
      simp only [List.length_append] at hrounds
      simp only [List.append_assoc]
      exact skipMembersIn_close htext hbefore hafter (by omega)
  | more hbefore htext hafter _ ih =>
      simp only [List.length_append, List.length_cons] at hrounds
      obtain ⟨fewer, rfl⟩ : ∃ fewer, rounds = fewer + 1 := ⟨rounds - 1, by omega⟩
      simp only [List.append_assoc, List.cons_append]
      rw [skipMembersIn_comma htext hbefore hafter (by omega)]
      exact ih (List.cons_ne_nil _ _) (by omega)

theorem skips_object {members : List (Unit × Unit)} {text : List Char}
    (hmembers : Separated (MemberText (fun _ => IsString) (fun _ => Skips)) members text) :
    Skips ('\x7b' :: (text ++ ['\x7d'])) where
  opens := ⟨'\x7b', _, rfl, by decide, by decide⟩
  skips := by
    intro rest rounds _ hrounds
    simp only [List.length_cons, List.length_append, List.length_nil] at hrounds
    obtain ⟨fewer, rfl⟩ : ∃ fewer, rounds = fewer + 2 := ⟨rounds - 2, by omega⟩
    have hbrace : skipBlank ('\x7b' :: (text ++ '\x7d' :: rest)) =
        '\x7b' :: (text ++ '\x7d' :: rest) := skipBlank_token (by decide) _
    rw [List.cons_append, List.append_assoc, List.singleton_append, skipValueIn, hbrace]
    cases members with
    | nil =>
        cases hmembers with
        | nil hblanks =>
            simp [skipBlank_append_token hblanks (show isBlank '\x7d' = false by decide) rest]
    | cons member members =>
        obtain ⟨tail, hskip⟩ :=
          hmembers.skipBlank_member (fun _ _ hstring => hstring.head?) ('\x7d' :: rest)
        have hall := skipMembersIn_separated hmembers (List.cons_ne_nil member members) rest
          (show 2 * text.length ≤ fewer by omega)
        rw [← skipMembersIn_skipBlank, hskip] at hall
        simp [hskip, hall]

end Containers

/-- The induction is on the length of the text, since lists and objects hold shorter values. -/
theorem WellFormed.skips {text : List Char} (hformed : WellFormed text) : Skips text := by
  induction hlength : text.length using Nat.strong_induction_on generalizing text with
  | _ n ih =>
      subst hlength
      have hshorter : ∀ part : List Char, part.length < text.length → WellFormed part →
          Skips part := fun part hpart hformed => ih part.length hpart hformed rfl
      cases hformed with
      | null => exact skips_null
      | boolean value => exact skips_boolean value
      | number hnumber => exact skips_number hnumber
      | string hstring => exact skips_string hstring
      | list hitems =>
          refine skips_list (hitems.imp_of_length fun _ part hpart hformed => ?_)
          refine hshorter part ?_ hformed
          simp only [List.length_cons, List.length_append]
          omega
      | object hmembers =>
          refine skips_object (hmembers.imp_of_length fun _ part hpart hmember => ?_)
          refine hmember.imp_of_length fun _ value hvalue hformed => ?_
          refine hshorter value ?_ hformed
          simp only [List.length_cons, List.length_append]
          omega

/-- Well-formed values are passed over to their end. -/
theorem WellFormed.skipValue {text blanks rest : List Char} (hformed : WellFormed text)
    (hblanks : AllBlank blanks) (hends : Ends rest) :
    skipValue (blanks ++ (text ++ rest)) = .ok rest := by
  refine hformed.skips.after_blanks hblanks hends ?_
  simp only [List.length_append]
  omega

end OpeningTimes.Json

import OpeningTimes.Proofs.Json.Reading

/-!
The form of numbers: a minus sign or none, digits without needless zeros in front, and perhaps a
fraction and an exponent.  The reader takes all of a number that has this form and nothing more.
-/

namespace OpeningTimes.Json

structure SomeDigits (s : List Char) : Prop where
  ne_nil : s ≠ []
  all_digits : ∀ c ∈ s, isDigit c = true

/-- The digits before the point.  A zero in front stands alone. -/
structure IsWhole (s : List Char) : Prop extends SomeDigits s where
  zero_alone : ∀ tail, s = '0' :: tail → tail = []

/-- The point and the digits after it, or nothing. -/
inductive IsFraction : Option (List Char) → List Char → Prop
  | absent : IsFraction none []
  | written {digits : List Char} (hdigits : SomeDigits digits) :
      IsFraction (some digits) ('.' :: digits)

/-- A sign, which may be left out unless it is a minus sign. -/
inductive IsSign : Bool → List Char → Prop
  | absent : IsSign false []
  | plus : IsSign false ['+']
  | minus : IsSign true ['-']

inductive IsExponent : Option (Bool × List Char) → List Char → Prop
  | absent : IsExponent none []
  | written {mark : Char} {negative : Bool} {sign digits : List Char}
      (hmark : mark = 'e' ∨ mark = 'E') (hsign : IsSign negative sign)
      (hdigits : SomeDigits digits) :
      IsExponent (some (negative, digits)) (mark :: (sign ++ digits))

inductive IsNumber : NumberText → List Char → Prop
  | intro {whole fractionText exponentText : List Char} {fraction : Option (List Char)}
      {exponent : Option (Bool × List Char)} (negative : Bool) (hwhole : IsWhole whole)
      (hfraction : IsFraction fraction fractionText)
      (hexponent : IsExponent exponent exponentText) :
      IsNumber ⟨negative, whole, fraction, exponent⟩
        ((if negative then ['-'] else []) ++ (whole ++ (fractionText ++ exponentText)))

def EndsDigits (s : List Char) : Prop :=
  ∀ c ∈ s.head?, isDigit c = false

theorem Ends.endsDigits {rest : List Char} (hends : Ends rest) : EndsDigits rest := by
  intro c hc
  obtain ⟨tail, rfl⟩ := List.head?_eq_some_iff.1 hc
  exact hends.not_numeric.1

theorem endsDigits_cons {c : Char} (hc : isDigit c = false) (s : List Char) :
    EndsDigits (c :: s) := by
  intro d hd
  obtain rfl : c = d := by simpa using hd
  exact hc

theorem SomeDigits.exists_cons {s : List Char} (hdigits : SomeDigits s) :
    ∃ c tail, s = c :: tail ∧ isDigit c = true := by
  obtain ⟨c, tail, rfl⟩ := List.exists_cons_of_ne_nil hdigits.ne_nil
  exact ⟨c, tail, rfl, hdigits.all_digits c List.mem_cons_self⟩

theorem someDigits_of_digits {s found rest : List Char} (hread : digits s = (found, rest))
    (hne : found ≠ []) : SomeDigits found ∧ s = found ++ rest := by
  obtain ⟨rfl, rfl⟩ := Prod.mk.inj hread
  exact ⟨⟨hne, List.all_eq_true.1 List.all_takeWhile⟩, List.takeWhile_append_dropWhile.symm⟩

theorem someDigits_append (cut : Cause) {s rest : List Char} (hdigits : SomeDigits s)
    (hrest : EndsDigits rest) : someDigits cut (s ++ rest) = .ok (s, rest) := by
  have hread : digits (s ++ rest) = (s, rest) := by
    rw [digits, List.takeWhile_append_of_pos hdigits.all_digits,
      List.dropWhile_append_of_pos hdigits.all_digits]
    cases rest with
    | nil => simp
    | cons c rest => simp [hrest c rfl]
  obtain ⟨c, tail, rfl, hc⟩ := hdigits.exists_cons
  rw [List.cons_append] at hread ⊢
  rw [someDigits, if_pos hc, hread]

theorem wholePart_append (cut : Cause) {s rest : List Char} (hwhole : IsWhole s)
    (hrest : EndsDigits rest) : wholePart cut (s ++ rest) = .ok (s, rest) := by
  rw [wholePart, someDigits_append cut hwhole.toSomeDigits hrest]
  -- The refusal of a zero in front does not apply.
  simp only [bind, Except.bind]
  split
  · next hzero =>
      obtain ⟨hzero, -⟩ := Prod.mk.inj hzero
      exact absurd (hwhole.zero_alone _ hzero) (List.cons_ne_nil _ _)
  · rfl

/-- A fraction is taken where neither a digit nor another point follows. -/
theorem fractionPart_append (cut : Cause) {fraction : Option (List Char)} {s rest : List Char}
    (hfraction : IsFraction fraction s) (hrest : EndsDigits rest)
    (hpoint : rest.head? ≠ some '.') :
    fractionPart cut (s ++ rest) = .ok (fraction, rest) := by
  cases hfraction with
  | absent =>
      rw [List.nil_append]
      unfold fractionPart
      split
      · exact absurd rfl hpoint
      · rfl
  | written hdigits =>
      rw [List.cons_append, fractionPart, someDigits_append cut hdigits hrest]
      rfl

theorem signPart_append {negative : Bool} {sign : List Char} (hsign : IsSign negative sign)
    {s : List Char} (hdigits : SomeDigits s) (rest : List Char) :
    signPart (sign ++ (s ++ rest)) = (negative, s ++ rest) := by
  cases hsign with
  | absent =>
      obtain ⟨c, tail, rfl, hc⟩ := hdigits.exists_cons
      rw [List.nil_append, List.cons_append]
      unfold signPart
      split
      · next hminus =>
          obtain ⟨rfl, -⟩ := List.cons.inj hminus
          exact absurd hc (by decide)
      · next hplus =>
          obtain ⟨rfl, -⟩ := List.cons.inj hplus
          exact absurd hc (by decide)
      · rfl
  | plus => rfl
  | minus => rfl

theorem exponentPart_append (cut : Cause) {exponent : Option (Bool × List Char)}
    {s rest : List Char} (hexponent : IsExponent exponent s) (hends : Ends rest) :
    exponentPart cut (s ++ rest) = .ok (exponent, rest) := by
  cases hexponent with
  | absent =>
      cases rest with
      | nil => rfl
      | cons c rest =>
          obtain ⟨-, -, hsmall, hcapital⟩ := hends.not_numeric
          simp [exponentPart, hsmall, hcapital]
  | written hmark hsign hdigits =>
      rw [List.cons_append, List.append_assoc, exponentPart, if_pos hmark]
      simp only [signPart_append hsign hdigits rest,
        someDigits_append cut hdigits hends.endsDigits, bind, Except.bind]

/-- What follows the digits before an exponent is no digit and no point. -/
theorem IsExponent.begins {exponent : Option (Bool × List Char)} {s rest : List Char}
    (hexponent : IsExponent exponent s) (hends : Ends rest) :
    EndsDigits (s ++ rest) ∧ (s ++ rest).head? ≠ some '.' := by
  cases hexponent with
  | absent =>
      refine ⟨hends.endsDigits, ?_⟩
      intro hpoint
      obtain ⟨tail, rfl⟩ := List.head?_eq_some_iff.1 hpoint
      exact hends.not_numeric.2.1 rfl
  | written hmark _ _ =>
      rcases hmark with rfl | rfl
      · exact ⟨endsDigits_cons (by decide) _, by simp⟩
      · exact ⟨endsDigits_cons (by decide) _, by simp⟩

theorem IsFraction.begins {fraction : Option (List Char)} {s rest : List Char}
    (hfraction : IsFraction fraction s) (hrest : EndsDigits rest) : EndsDigits (s ++ rest) := by
  cases hfraction with
  | absent => exact hrest
  | written _ => exact endsDigits_cons (by decide) _

/-- A number is read to its end. -/
theorem numberText_append (cut : Cause) {number : NumberText} {text rest : List Char}
    (hnumber : IsNumber number text) (hends : Ends rest) :
    numberText cut (text ++ rest) = .ok (number, rest) := by
  obtain ⟨negative, hwhole, hfraction, hexponent⟩ := hnumber
  obtain ⟨hdigits, hpoint⟩ := hexponent.begins hends
  have hwholePart := wholePart_append cut hwhole (hfraction.begins hdigits)
  have hfractionPart := fractionPart_append cut hfraction hdigits hpoint
  have hexponentPart := exponentPart_append cut hexponent hends
  cases negative with
  | true =>
      simp [numberText, hwholePart, hfractionPart, hexponentPart, bind, Except.bind]
  | false =>
      obtain ⟨c, tail, rfl, hc⟩ := hwhole.exists_cons
      have hminus : c ≠ '-' := by
        rintro rfl
        exact absurd hc (by decide)
      simp only [Bool.false_eq_true, if_false, List.nil_append, List.append_assoc,
        List.cons_append] at hwholePart ⊢
      simp [numberText, hminus, hwholePart, hfractionPart, hexponentPart, bind, Except.bind]

/-- A number begins with a minus sign or a digit. -/
theorem IsNumber.exists_cons {number : NumberText} {text : List Char}
    (hnumber : IsNumber number text) :
    ∃ c tail, text = c :: tail ∧ (c = '-' ∨ isDigit c = true) := by
  obtain ⟨negative, hwhole, -, -⟩ := hnumber
  cases negative with
  | true => exact ⟨'-', _, rfl, Or.inl rfl⟩
  | false =>
      obtain ⟨c, tail, rfl, hc⟩ := hwhole.exists_cons
      exact ⟨c, _, rfl, Or.inr hc⟩

/-- What a number begins with is no other token. -/
theorem ne_of_starts_number {c d : Char} (hc : c = '-' ∨ isDigit c = true) (hminus : d ≠ '-')
    (hdigit : isDigit d = false) : c ≠ d := by
  rintro rfl
  rcases hc with hc | hc
  · exact hminus hc
  · exact Bool.false_ne_true (hdigit.symm.trans hc)

theorem isBlank_of_starts_number {c : Char} (hc : c = '-' ∨ isDigit c = true) :
    isBlank c = false := by
  cases hblank : isBlank c with
  | false => rfl
  | true =>
      have hcases : c = ' ' ∨ c = '\n' ∨ c = '\t' ∨ c = '\r' := by
        simpa [isBlank, or_assoc] using hblank
      rcases hcases with rfl | rfl | rfl | rfl <;> exact absurd hc (by decide)

end OpeningTimes.Json

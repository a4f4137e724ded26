import Mathlib.Tactic.IntervalCases
import OpeningTimes.Proofs.Json.NumberForm

/-!
Integers.  The decimal digits of an integer are read back as the integer, and decoders of bounded
integers accept exactly what lies within their bounds.
-/

namespace OpeningTimes.Json

theorem isDigit_eq (c : Char) : isDigit c = c.isDigit := by
  simp [isDigit, Char.isDigit, Char.le_def]

theorem isDigit_of_mem_toDigits {n : Nat} {c : Char} (hc : c ∈ Nat.toDigits 10 n) :
    isDigit c = true := by
  rw [isDigit_eq]
  exact Nat.isDigit_of_mem_toDigits (by decide) (by decide) hc

/-- Only zero is written with a zero in front. -/
theorem toDigits_eq_zero_cons {n : Nat} {tail : List Char}
    (hzero : Nat.toDigits 10 n = '0' :: tail) : tail = [] := by
  have hfirst : ∀ n : Nat, 0 < n → (Nat.toDigits 10 n).head? ≠ some '0' := by
    intro n
    induction n using Nat.strong_induction_on with
    | _ n ih =>
        intro hpos
        by_cases hlt : n < 10
        · rw [Nat.toDigits_of_lt_base hlt]
          interval_cases n <;> decide
        · have hfront := ih (n / 10) (by omega) (by omega)
          obtain ⟨c, tail, hcons⟩ :=
            List.exists_cons_of_ne_nil (Nat.toDigits_ne_nil (n := n / 10) (b := 10))
          rw [Nat.toDigits_of_base_le (by decide) (by omega), hcons]
          rwa [hcons] at hfront
  by_cases hn : n = 0
  · subst hn
    rw [Nat.toDigits_zero] at hzero
    exact (List.cons.inj hzero).2.symm
  · exact absurd (by rw [hzero]; rfl) (hfirst n (Nat.pos_of_ne_zero hn))

/-- Digits are taken as long as the number that they make stays within the limit. -/
theorem appendDigits_eq {limit : Nat} (s : List Char) (value : Nat)
    (hlimit : Nat.ofDigitChars 10 s value ≤ limit) :
    appendDigits limit value s = (Nat.ofDigitChars 10 s value, []) := by
  induction s generalizing value with
  | nil => simp [appendDigits]
  | cons c s ih =>
      have hnext : Nat.ofDigitChars 10 (c :: s) value =
          Nat.ofDigitChars 10 s (value * 10 + digitValue c) := by
        rw [Nat.ofDigitChars_cons, Nat.mul_comm]
        rfl
      have hle : value * 10 + digitValue c ≤ Nat.ofDigitChars 10 s (value * 10 + digitValue c) := by
        rw [Nat.ofDigitChars_eq_ofDigitChars_zero]
        have hscaled := Nat.le_mul_of_pos_left (value * 10 + digitValue c)
          (Nat.pow_pos (n := s.length) (show 0 < 10 by decide))
        omega
      rw [hnext] at hlimit ⊢
      rw [appendDigits, if_neg (by omega), ih _ hlimit]

/-- The digits of a natural number stand before the point of a number. -/
theorem isWhole_toDigits (n : Nat) : IsWhole (Nat.toDigits 10 n) where
  ne_nil := Nat.toDigits_ne_nil
  all_digits := fun _ hc => isDigit_of_mem_toDigits hc
  zero_alone := fun _ hzero => toDigits_eq_zero_cons hzero

/-- The digits of a natural number, after a minus sign or not, as the text of a number. -/
theorem numberText_toDigits (cut : Cause) (negative : Bool) (n : Nat) {rest : List Char}
    (hends : Ends rest) :
    numberText cut ((if negative then ['-'] else []) ++ (Nat.toDigits 10 n ++ rest)) =
      .ok ({ negative := negative, whole := Nat.toDigits 10 n }, rest) := by
  have hread := numberText_append cut (.intro negative (isWhole_toDigits n) .absent .absent) hends
  simpa using hread

theorem value_toDigits {n : Nat} (hn : n ≤ maxInteger) :
    NumberText.value { negative := false, whole := Nat.toDigits 10 n } = .ok (.integer n) := by
  have happend : appendDigits maxInteger 0 (Nat.toDigits 10 n) = (n, []) := by
    rw [appendDigits_eq _ _ (by rw [Nat.ofDigitChars_ten_toDigits]; exact hn),
      Nat.ofDigitChars_ten_toDigits]
  simp [NumberText.value, happend]

theorem value_negative_toDigits {n : Nat} (hpos : 0 < n) (hn : n ≤ maxNegative) :
    NumberText.value { negative := true, whole := Nat.toDigits 10 n } =
      .ok (.integer (-(n : Int))) := by
  have hmax : maxNegative ≤ maxInteger := by decide
  have happend : appendDigits maxInteger 0 (Nat.toDigits 10 n) = (n, []) := by
    rw [appendDigits_eq _ _ (by rw [Nat.ofDigitChars_ten_toDigits]; omega),
      Nat.ofDigitChars_ten_toDigits]
  have hnone : ¬(n = 0 ∨ maxNegative < n) := by omega
  simp [NumberText.value, happend, hnone]

/-- The text of an integer is its digits, after a minus sign if it is negative. -/
theorem toList_toString_int (value : Int) :
    (toString value).toList =
      (if value < 0 then ['-'] else []) ++ Nat.toDigits 10 value.natAbs := by
  rw [Int.toString_eq_repr, Int.repr_eq_if]
  by_cases hneg : value < 0
  · rw [if_neg (Int.not_le.2 hneg), if_pos hneg, String.toList_append, Nat.toList_repr]
    congr 2
    omega
  · rw [if_pos (Int.not_lt.1 hneg), if_neg hneg, Nat.toList_repr]
    congr 1
    omega

theorem number_toString (value : Int) (hlow : -(maxNegative : Int) ≤ value)
    (hhigh : value ≤ maxInteger) {rest : List Char} (hends : Ends rest) :
    number ((toString value).toList ++ rest) = .ok (.integer value, rest) := by
  by_cases hneg : value < 0
  · have htext := numberText_toDigits .endInValue true value.natAbs hends
    have hvalue := value_negative_toDigits (n := value.natAbs) (by omega) (by omega)
    have hback : -((value.natAbs : Nat) : Int) = value := by omega
    rw [hback] at hvalue
    rw [toList_toString_int, if_pos hneg, List.append_assoc, List.cons_append, List.nil_append,
      number]
    simp only [if_true, List.cons_append, List.nil_append] at htext
    simp [htext, hvalue, bind, Except.bind]
  · have htext := numberText_toDigits .endInValue false value.natAbs hends
    have hvalue := value_toDigits (n := value.natAbs) (by omega)
    have hback : ((value.natAbs : Nat) : Int) = value := by omega
    rw [hback] at hvalue
    rw [toList_toString_int, if_neg hneg, List.nil_append, number]
    simp only [Bool.false_eq_true, if_false, List.nil_append] at htext
    simp [htext, hvalue, bind, Except.bind]

/-- The first character of the text of an integer is a minus sign or a digit. -/
theorem toString_int_cons (value : Int) :
    ∃ c tail, (toString value).toList = c :: tail ∧ (c = '-' ∨ isDigit c = true) := by
  rw [toList_toString_int]
  by_cases hneg : value < 0
  · rw [if_pos hneg]
    exact ⟨'-', _, rfl, Or.inl rfl⟩
  · rw [if_neg hneg, List.nil_append]
    obtain ⟨c, tail, hdigits⟩ :=
      List.exists_cons_of_ne_nil (Nat.toDigits_ne_nil (n := value.natAbs) (b := 10))
    have hmem : c ∈ Nat.toDigits 10 value.natAbs := by simp [hdigits]
    exact ⟨c, tail, hdigits, Or.inr (isDigit_of_mem_toDigits hmem)⟩

theorem opens_toString_int (value : Int) : Opens (toString value).toList := by
  obtain ⟨c, tail, htext, hc⟩ := toString_int_cons value
  exact ⟨c, tail, htext, isBlank_of_starts_number hc,
    ne_of_starts_number hc (by decide) (by decide)⟩

theorem reads_integerBetween (low high value : Int) (wanted : Wanted)
    (hlow : -(maxNegative : Int) ≤ low) (hhigh : high ≤ maxInteger)
    (hbounds : low ≤ value ∧ value ≤ high) :
    Reads (Decoder.integerBetween low high wanted) (toString value).toList value := by
  refine Reads.of_skipBlank (opens_toString_int value) ?_ ?_
  · intro s
    rw [Decoder.integerBetween, Decoder.integerBetween, skipBlank_skipBlank]
  · intro rest hends
    have hnumber := number_toString value (by omega) (by omega) hends
    obtain ⟨c, tail, htext, hc⟩ := toString_int_cons value
    rw [Decoder.integerBetween, (opens_toString_int value).skipBlank_append]
    rw [htext, List.cons_append] at hnumber ⊢
    simp [hc, hnumber, hbounds, bind, Except.bind]

theorem reads_uint8 (n : UInt8) : Reads Decoder.uint8 (toString (n.toNat : Int)).toList n := by
  have hlt := n.toNat_lt
  have hreads := (reads_integerBetween 0 255 n.toNat .uint8 (by decide) (by decide)
    (by omega)).map (fun value => UInt8.ofNat value.toNat)
  simpa [Decoder.uint8] using hreads

theorem reads_uint16 (n : UInt16) : Reads Decoder.uint16 (toString (n.toNat : Int)).toList n := by
  have hlt := n.toNat_lt
  have hreads := (reads_integerBetween 0 65535 n.toNat .uint16 (by decide) (by decide)
    (by omega)).map (fun value => UInt16.ofNat value.toNat)
  simpa [Decoder.uint16] using hreads

theorem reads_int8 (n : Int8) : Reads Decoder.int8 (toString n.toInt).toList n := by
  have hlt := n.toInt_lt
  have hge := n.le_toInt
  have hreads := (reads_integerBetween (-128) 127 n.toInt .int8 (by decide) (by decide)
    (by omega)).map Int8.ofInt
  simpa [Decoder.int8] using hreads

theorem reads_int16 (n : Int16) : Reads Decoder.int16 (toString n.toInt).toList n := by
  have hlt := n.toInt_lt
  have hge := n.le_toInt
  have hreads := (reads_integerBetween (-32768) 32767 n.toInt .int16 (by decide) (by decide)
    (by omega)).map Int16.ofInt
  simpa [Decoder.int16] using hreads

end OpeningTimes.Json

import OpeningTimes.Proofs.Json.Passing

/-!
Strings that are read are spelled.  The reader of strings takes nothing but spellings, so what it
has read is a spelling of the string that it gives, whatever follows.
-/

namespace OpeningTimes.Json

theorem mem_hexDigits_of_hexValue? {c : Char} {value : Nat} (hvalue : hexValue? c = some value) :
    (c, value) ∈ hexDigits := by
  have hsmall : c.toNat < 103 := by
    simp only [hexValue?, Char.le_def, UInt32.le_iff_toNat_le] at hvalue
    split_ifs at hvalue with hdigit hsmall hcapital
    · exact Nat.lt_of_le_of_lt hdigit.2 (by decide)
    · exact Nat.lt_of_le_of_lt hsmall.2 (by decide)
    · exact Nat.lt_of_le_of_lt hcapital.2 (by decide)
  have hall : ∀ code < 103, ∀ value ∈ hexValue? (Char.ofNat code),
      (Char.ofNat code, value) ∈ hexDigits := by decide
  have hmem := hall c.toNat hsmall
  rw [Char.ofNat_toNat] at hmem
  exact hmem value hvalue

theorem fourHex_of_hexCode {s rest : List Char} {code : Nat}
    (hread : hexCode s = .ok (code, rest)) :
    ∃ digits, FourHex code digits ∧ s = digits ++ rest := by
  unfold hexCode at hread
  split at hread
  · next hhex =>
    obtain ⟨rfl, rfl⟩ := Prod.mk.inj (Except.ok.inj hread)
    unfold fourHex? at hhex
    split at hhex
    · next a b c d s =>
      split at hhex
      · next ha hb hc hd =>
        obtain ⟨rfl, rfl⟩ := Prod.mk.inj (Option.some.inj hhex)
        exact ⟨[a, b, c, d], .intro (mem_hexDigits_of_hexValue? ha) (mem_hexDigits_of_hexValue? hb)
          (mem_hexDigits_of_hexValue? hc) (mem_hexDigits_of_hexValue? hd), rfl⟩
      · cases hhex
    · cases hhex
  · split at hread <;> cases hread

theorem FourHex.lt {code : Nat} {digits : List Char} (hdigits : FourHex code digits) :
    code < 65536 := by
  have hall : ∀ digit ∈ hexDigits, digit.2 < 16 := by decide
  obtain ⟨ha, hb, hc, hd⟩ := hdigits
  have hi := hall _ ha
  have hj := hall _ hb
  have hk := hall _ hc
  have hl := hall _ hd
  dsimp only at hi hj hk hl
  omega

theorem escapeLetter_of_lookup {letter c : Char} (hlookup : shortEscapes.lookup letter = some c) :
    EscapeLetter letter c := by
  have hall : ∀ pair ∈ shortEscapes, EscapeLetter pair.1 pair.2 := by
    simp only [shortEscapes, List.forall_mem_cons, List.not_mem_nil, false_implies, implies_true,
      and_true]
    exact ⟨.quote, .backslash, .solidus, .backspace, .formFeed, .lineFeed, .carriageReturn, .tab⟩
  obtain ⟨before, after, hsplit, -⟩ := List.lookup_eq_some_iff.1 hlookup
  exact hall (letter, c) (by rw [hsplit]; simp)

theorem toNat_ofNat_of_isValidChar {code : Nat} (hvalid : code.isValidChar) :
    (Char.ofNat code).toNat = code := by
  rw [Char.ofNat, dif_pos hvalid]
  rfl

/-- A code unit that is no half of a pair is a character. -/
theorem isValidChar_of_not_surrogate {code : Nat} (hlt : code < 65536)
    (hlow : ¬ isLowSurrogate code = true) (hhigh : ¬ isHighSurrogate code = true) :
    code.isValidChar := by
  simp only [isLowSurrogate, isHighSurrogate, Bool.and_eq_true, decide_eq_true_eq] at hlow hhigh
  simp only [Nat.isValidChar]
  omega

/-- A numbered character is spelled by its number, in two halves if the first is half of a pair. -/
theorem spelledChar_of_numbered {s rest : List Char} {c : Char}
    (hread : numbered s = .ok (c, rest)) :
    ∃ tail, SpelledChar c ('\\' :: 'u' :: tail) ∧ s = tail ++ rest := by
  obtain ⟨⟨code, t⟩, hcode, hchar⟩ := bind_eq_ok.1 hread
  obtain ⟨digits, hdigits, hs⟩ := fourHex_of_hexCode hcode
  dsimp only at hchar
  split at hchar
  · cases hchar
  · next hlow =>
    split at hchar
    · next hhigh =>
      obtain ⟨u, hslash, hpair⟩ := bind_eq_ok.1 hchar
      obtain ⟨v, hmark, hpair⟩ := bind_eq_ok.1 hpair
      obtain ⟨⟨low, w⟩, hlowCode, hpair⟩ := bind_eq_ok.1 hpair
      obtain ⟨second, hsecond, hv⟩ := fourHex_of_hexCode hlowCode
      dsimp only at hpair
      split at hpair
      · next hislow =>
        obtain ⟨rfl, rfl⟩ := Prod.mk.inj (Except.ok.inj hpair)
        simp only [isHighSurrogate, isLowSurrogate, Bool.and_eq_true, decide_eq_true_eq]
          at hhigh hislow
        have hvalue : (pairedChar code low).toNat =
            0x10000 + (code - 0xD800) * 0x400 + (low - 0xDC00) := by
          apply toNat_ofNat_of_isValidChar
          simp only [Nat.isValidChar]
          omega
        refine ⟨digits ++ '\\' :: 'u' :: second, .paired hdigits hsecond hhigh hislow hvalue, ?_⟩
        simp [hs, eq_of_pairPart hslash, eq_of_pairPart hmark, hv]
      · cases hpair
    · next hhigh =>
      obtain ⟨rfl, rfl⟩ := Prod.mk.inj (Except.ok.inj hchar)
      have hvalid := isValidChar_of_not_surrogate hdigits.lt hlow hhigh
      rw [← toNat_ofNat_of_isValidChar hvalid] at hdigits
      exact ⟨digits, .numbered hdigits, hs⟩

/-- What is read behind a backslash spells a character with it. -/
theorem spelledChar_of_escaped {s rest : List Char} {c : Char}
    (hread : escaped s = .ok (c, rest)) :
    ∃ tail, SpelledChar c ('\\' :: tail) ∧ s = tail ++ rest := by
  unfold escaped at hread
  split at hread
  · cases hread
  · next letter s =>
    split at hread
    · next value hletter =>
      obtain ⟨rfl, rfl⟩ := Prod.mk.inj (Except.ok.inj hread)
      exact ⟨[letter], .named (escapeLetter_of_lookup hletter), rfl⟩
    · split at hread
      · next hu =>
        obtain ⟨tail, htail, rfl⟩ := spelledChar_of_numbered hread
        exact ⟨'u' :: tail, htail, by rw [hu]; rfl⟩
      · cases hread

/-- The run: the characters that are read are spelled one after the other up to the quote. -/
theorem spelled_of_stringBody {rounds : Nat} {s rest body : List Char}
    (hread : stringBody rounds s = .ok (body, rest)) :
    ∃ pieces, List.Forall₂ SpelledChar body pieces ∧ s = pieces.flatten ++ '"' :: rest := by
  induction rounds generalizing s body with
  | zero => cases hread
  | succ rounds ih =>
      cases s with
      | nil => cases hread
      | cons c s =>
          rw [stringBody] at hread
          split at hread
          · next hquote =>
            obtain ⟨rfl, rfl⟩ := Prod.mk.inj (Except.ok.inj hread)
            exact ⟨[], .nil, by simp [hquote]⟩
          · next hquote =>
            split at hread
            · next hslash =>
              obtain ⟨⟨value, t⟩, hescaped, hread⟩ := bind_eq_ok.1 hread
              obtain ⟨⟨more, u⟩, hbody, hread⟩ := bind_eq_ok.1 hread
              obtain ⟨rfl, rfl⟩ := Prod.mk.inj (Except.ok.inj hread)
              obtain ⟨tail, htail, rfl⟩ := spelledChar_of_escaped hescaped
              obtain ⟨pieces, hpieces, rfl⟩ := ih hbody
              exact ⟨('\\' :: tail) :: pieces, .cons htail hpieces, by simp [hslash]⟩
            · next hslash =>
              split at hread
              · cases hread
              · next hcontrol =>
                obtain ⟨⟨more, u⟩, hbody, hread⟩ := bind_eq_ok.1 hread
                obtain ⟨rfl, rfl⟩ := Prod.mk.inj (Except.ok.inj hread)
                obtain ⟨pieces, hpieces, rfl⟩ := ih hbody
                have hplain : IsPlain c := ⟨hquote, hslash, by simpa [isControl] using hcontrol⟩
                exact ⟨[c] :: pieces, .cons (.plain hplain) hpieces, by simp⟩

theorem spelled_of_stringTail {s rest : List Char} {value : String}
    (hread : stringTail s = .ok (value, rest)) :
    ∃ pieces, List.Forall₂ SpelledChar value.toList pieces ∧
      s = pieces.flatten ++ '"' :: rest := by
  obtain ⟨⟨body, left⟩, hbody, hread⟩ := bind_eq_ok.1 hread
  obtain ⟨rfl, rfl⟩ := Prod.mk.inj (Except.ok.inj hread)
  simpa using spelled_of_stringBody hbody

/-- A text of the form of a string spells the string that is read from it. -/
theorem IsString.spelled {tail rest left : List Char} {value : String}
    (hstring : IsString ('"' :: tail)) (hread : stringTail (tail ++ rest) = .ok (value, left)) :
    left = rest ∧ Spelled value ('"' :: tail) := by
  obtain ⟨pieces, hpieces, htext⟩ := hstring
  obtain rfl : tail = pieces.flatten ++ ['"'] := (List.cons.inj htext).2
  rw [List.append_assoc, List.singleton_append] at hread
  have hskip := skipStringTail_of_stringTail hread
  rw [skipStringTail_flatten hpieces] at hskip
  obtain rfl := Except.ok.inj hskip
  obtain ⟨spellings, hspellings, hsame⟩ := spelled_of_stringTail hread
  refine ⟨rfl, spellings, hspellings, ?_⟩
  rw [List.append_cancel_right hsame]

end OpeningTimes.Json

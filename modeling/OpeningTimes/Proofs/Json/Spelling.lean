import Mathlib.Data.List.Forall2
import Mathlib.Tactic.IntervalCases
import OpeningTimes.Json.Value
import OpeningTimes.Proofs.Json.Reading

/-!
Spellings of strings.  Inside a string a character may stand for itself, behind a backslash under
a letter, or by its number in base sixteen, which takes two halves beyond the first 65536
characters.  All spellings of a string are read as the string, and where strings are passed over
halves need not match.
-/

namespace OpeningTimes.Json

/-- The digits in base sixteen, of which letters may be capital, with their values. -/
def hexDigits : List (Char × Nat) :=
  [('0', 0), ('1', 1), ('2', 2), ('3', 3), ('4', 4), ('5', 5), ('6', 6), ('7', 7), ('8', 8),
   ('9', 9), ('a', 10), ('b', 11), ('c', 12), ('d', 13), ('e', 14), ('f', 15), ('A', 10),
   ('B', 11), ('C', 12), ('D', 13), ('E', 14), ('F', 15)]

/-- A number and four digits in base sixteen that write it. -/
inductive FourHex : Nat → List Char → Prop
  | intro {a b c d : Char} {i j k l : Nat} (ha : (a, i) ∈ hexDigits) (hb : (b, j) ∈ hexDigits)
      (hc : (c, k) ∈ hexDigits) (hd : (d, l) ∈ hexDigits) :
      FourHex (((i * 16 + j) * 16 + k) * 16 + l) [a, b, c, d]

inductive EscapeLetter : Char → Char → Prop
  | quote : EscapeLetter '"' '"'
  | backslash : EscapeLetter '\\' '\\'
  | solidus : EscapeLetter '/' '/'
  | backspace : EscapeLetter 'b' '\x08'
  | formFeed : EscapeLetter 'f' '\x0c'
  | lineFeed : EscapeLetter 'n' '\n'
  | carriageReturn : EscapeLetter 'r' '\r'
  | tab : EscapeLetter 't' '\t'

/-- A character that may stand for itself inside a string. -/
structure IsPlain (c : Char) : Prop where
  ne_quote : c ≠ '"'
  ne_backslash : c ≠ '\\'
  ge_space : 0x20 ≤ c.toNat

inductive SpelledChar : Char → List Char → Prop
  | plain {c : Char} (hplain : IsPlain c) : SpelledChar c [c]
  | named {c letter : Char} (hletter : EscapeLetter letter c) : SpelledChar c ['\\', letter]
  | numbered {c : Char} {digits : List Char} (hdigits : FourHex c.toNat digits) :
      SpelledChar c ('\\' :: 'u' :: digits)
  | paired {c : Char} {high low : Nat} {first second : List Char} (hfirst : FourHex high first)
      (hsecond : FourHex low second) (hhigh : 0xD800 ≤ high ∧ high ≤ 0xDBFF)
      (hlow : 0xDC00 ≤ low ∧ low ≤ 0xDFFF)
      (hvalue : c.toNat = 0x10000 + (high - 0xD800) * 0x400 + (low - 0xDC00)) :
      SpelledChar c ('\\' :: 'u' :: (first ++ '\\' :: 'u' :: second))

/-- A string and a text that writes it: spellings of its characters between quotes. -/
def Spelled (value : String) (text : List Char) : Prop :=
  ∃ pieces, List.Forall₂ SpelledChar value.toList pieces ∧ text = '"' :: (pieces.flatten ++ ['"'])

/-- A piece of a string of which only the form counts. -/
inductive StringPiece : List Char → Prop
  | plain {c : Char} (hplain : IsPlain c) : StringPiece [c]
  | named {c letter : Char} (hletter : EscapeLetter letter c) : StringPiece ['\\', letter]
  | numbered {code : Nat} {digits : List Char} (hdigits : FourHex code digits) :
      StringPiece ('\\' :: 'u' :: digits)

def IsString (text : List Char) : Prop :=
  ∃ pieces : List (List Char), (∀ piece ∈ pieces, StringPiece piece) ∧
    text = '"' :: (pieces.flatten ++ ['"'])

theorem Spelled.opens {value : String} {text : List Char} (hspelled : Spelled value text) :
    Opens text := by
  obtain ⟨pieces, -, rfl⟩ := hspelled
  exact ⟨'"', _, rfl, by decide, by decide⟩

theorem Spelled.head? (value : String) (text : List Char) (hspelled : Spelled value text) :
    text.head? = some '"' := by
  obtain ⟨pieces, -, rfl⟩ := hspelled
  rfl

theorem IsString.head? {text : List Char} (hstring : IsString text) : text.head? = some '"' := by
  obtain ⟨pieces, -, rfl⟩ := hstring
  rfl

theorem hexValue?_of_mem {c : Char} {value : Nat} (hdigit : (c, value) ∈ hexDigits) :
    hexValue? c = some value := by
  have hall : ∀ digit ∈ hexDigits, hexValue? digit.1 = some digit.2 := by decide
  exact hall (c, value) hdigit

theorem FourHex.fourHex? {code : Nat} {digits : List Char} (hdigits : FourHex code digits)
    (s : List Char) : fourHex? (digits ++ s) = some (code, s) := by
  obtain ⟨ha, hb, hc, hd⟩ := hdigits
  simp [Json.fourHex?, hexValue?_of_mem ha, hexValue?_of_mem hb, hexValue?_of_mem hc,
    hexValue?_of_mem hd]

theorem FourHex.hexCode {code : Nat} {digits : List Char} (hdigits : FourHex code digits)
    (s : List Char) : hexCode (digits ++ s) = .ok (code, s) := by
  rw [Json.hexCode, hdigits.fourHex? s]

theorem EscapeLetter.lookup {letter c : Char} (hletter : EscapeLetter letter c) :
    shortEscapes.lookup letter = some c := by
  cases hletter <;> decide

theorem IsPlain.isControl {c : Char} (hplain : IsPlain c) : isControl c = false := by
  simpa [Json.isControl] using hplain.ge_space

section Reading

/-- No character is half of a pair. -/
theorem toNat_lt_or_gt_surrogates (c : Char) : c.toNat < 0xD800 ∨ 0xDFFF < c.toNat := by
  have hvalid := c.valid
  simp only [UInt32.isValidChar, Nat.isValidChar] at hvalid
  simp only [Char.toNat]
  omega

theorem numbered_of_fourHex {c : Char} {digits : List Char} (hdigits : FourHex c.toNat digits)
    (s : List Char) : numbered (digits ++ s) = .ok (c, s) := by
  have hrange := toNat_lt_or_gt_surrogates c
  have hlow : isLowSurrogate c.toNat = false := by
    simp [isLowSurrogate]
    omega
  have hhigh : isHighSurrogate c.toNat = false := by
    simp [isHighSurrogate]
    omega
  simp [numbered, hdigits.hexCode s, hlow, hhigh, bind, Except.bind]

theorem numbered_of_pair {c : Char} {high low : Nat} {first second : List Char}
    (hfirst : FourHex high first) (hsecond : FourHex low second)
    (hhigh : 0xD800 ≤ high ∧ high ≤ 0xDBFF) (hlow : 0xDC00 ≤ low ∧ low ≤ 0xDFFF)
    (hvalue : c.toNat = 0x10000 + (high - 0xD800) * 0x400 + (low - 0xDC00)) (s : List Char) :
    numbered (first ++ '\\' :: 'u' :: (second ++ s)) = .ok (c, s) := by
  have hnotLow : isLowSurrogate high = false := by
    simp [isLowSurrogate]
    omega
  have hisHigh : isHighSurrogate high = true := by
    simp [isHighSurrogate, hhigh]
  have hisLow : isLowSurrogate low = true := by
    simp [isLowSurrogate, hlow]
  have hchar : pairedChar high low = c := by
    rw [pairedChar, ← hvalue, Char.ofNat_toNat]
  simp [numbered, hfirst.hexCode, hsecond.hexCode, hnotLow, hisHigh, hisLow, pairPart, hchar,
    bind, Except.bind]

/-- A spelling is a character that stands for itself, or what a backslash introduces. -/
theorem SpelledChar.cases_read {c : Char} {piece : List Char} (hspelled : SpelledChar c piece) :
    (piece = [c] ∧ IsPlain c) ∨
      ∃ tail, piece = '\\' :: tail ∧ ∀ s, escaped (tail ++ s) = .ok (c, s) := by
  have hu : shortEscapes.lookup 'u' = none := by decide
  cases hspelled with
  | plain hplain => exact Or.inl ⟨rfl, hplain⟩
  | named hletter =>
      refine Or.inr ⟨_, rfl, fun s => ?_⟩
      simp [escaped, hletter.lookup]
  | numbered hdigits =>
      refine Or.inr ⟨_, rfl, fun s => ?_⟩
      simp [escaped, hu, numbered_of_fourHex hdigits s]
  | paired hfirst hsecond hhigh hlow hvalue =>
      refine Or.inr ⟨_, rfl, fun s => ?_⟩
      simp [escaped, hu, numbered_of_pair hfirst hsecond hhigh hlow hvalue s]

/-- Reading the spelling of a character gives the character. -/
theorem stringBody_of_spelledChar {c : Char} {piece : List Char} (hspelled : SpelledChar c piece)
    (rounds : Nat) (s : List Char) :
    stringBody (rounds + 1) (piece ++ s)
      = (stringBody rounds s).bind (fun (body, s) => .ok (c :: body, s)) := by
  rcases hspelled.cases_read with ⟨rfl, hplain⟩ | ⟨tail, rfl, hescaped⟩
  · exact stringBody_plain hplain.ne_quote hplain.ne_backslash hplain.isControl rounds s
  · exact stringBody_escaped (hescaped s) rounds

theorem stringBody_of_spelled {body : List Char} {pieces : List (List Char)}
    (hspelled : List.Forall₂ SpelledChar body pieces) (rest : List Char) {rounds : Nat}
    (hrounds : pieces.length < rounds) :
    stringBody rounds (pieces.flatten ++ '"' :: rest) = .ok (body, rest) := by
  induction hspelled generalizing rounds with
  | nil =>
      obtain ⟨more, rfl⟩ := Nat.exists_eq_add_one_of_ne_zero (Nat.ne_of_gt hrounds)
      exact stringBody_quote more rest
  | cons hchar _ ih =>
      obtain ⟨more, rfl⟩ := Nat.exists_eq_add_one_of_ne_zero (Nat.ne_zero_of_lt hrounds)
      rw [List.flatten_cons, List.append_assoc, stringBody_of_spelledChar hchar,
        ih (Nat.lt_of_succ_lt_succ hrounds)]
      rfl

/-- Pieces that are not empty are at most as many as their characters. -/
theorem length_le_length_flatten {pieces : List (List Char)}
    (hne : ∀ piece ∈ pieces, piece ≠ []) : pieces.length ≤ pieces.flatten.length := by
  induction pieces with
  | nil => exact Nat.le_refl 0
  | cons piece pieces ih =>
      have hpos := List.length_pos_iff.2 (hne piece List.mem_cons_self)
      have hrest := ih fun other hother => hne other (List.mem_cons_of_mem piece hother)
      rw [List.flatten_cons, List.length_append, List.length_cons]
      omega

theorem ne_nil_of_spelled {body : List Char} {pieces : List (List Char)}
    (hspelled : List.Forall₂ SpelledChar body pieces) : ∀ piece ∈ pieces, piece ≠ [] := by
  induction hspelled with
  | nil => simp
  | cons hchar _ ih =>
      intro piece hpiece
      rcases List.mem_cons.1 hpiece with rfl | hpiece
      · cases hchar <;> exact List.cons_ne_nil _ _
      · exact ih piece hpiece

theorem stringTail_of_spelled {value : String} {pieces : List (List Char)}
    (hspelled : List.Forall₂ SpelledChar value.toList pieces) (rest : List Char) :
    stringTail (pieces.flatten ++ '"' :: rest) = .ok (value, rest) := by
  have hrounds : pieces.length < (pieces.flatten ++ '"' :: rest).length + 1 := by
    have hlength := length_le_length_flatten (ne_nil_of_spelled hspelled)
    rw [List.length_append]
    omega
  rw [stringTail, stringBody_of_spelled hspelled rest hrounds]
  simp [bind, Except.bind]

theorem reads_string {value : String} {text : List Char} (hspelled : Spelled value text) :
    Reads Decoder.string text value := by
  refine Reads.of_skipBlank hspelled.opens ?_ ?_
  · intro s
    rw [Decoder.string, Decoder.string, skipBlank_skipBlank]
  · intro rest _
    rw [Decoder.string, hspelled.opens.skipBlank_append]
    obtain ⟨pieces, hpieces, rfl⟩ := hspelled
    simpa using stringTail_of_spelled hpieces rest

/-- Reads the name of one of several values. -/
theorem reads_oneOf {α : Type} {names : List (String × α)} {name : String} {value : α}
    (hlookup : names.lookup name = some value) {text : List Char} (hspelled : Spelled name text) :
    Reads (Decoder.oneOf names) text value := by
  refine Reads.of_skipBlank hspelled.opens ?_ ?_
  · intro s
    rw [Decoder.oneOf, Decoder.oneOf, skipBlank_skipBlank]
  · intro rest _
    rw [Decoder.oneOf, hspelled.opens.skipBlank_append]
    obtain ⟨pieces, hpieces, rfl⟩ := hspelled
    simp [stringTail_of_spelled hpieces, Decoder.variant, hlookup, bind, Except.bind]

end Reading

section Canonical

/-- A number below sixteen as a written digit. -/
theorem mem_hexDigits_digitChar (n : Nat) : (Nat.digitChar (n % 16), n % 16) ∈ hexDigits := by
  have hlt : n % 16 < 16 := Nat.mod_lt n (by decide)
  interval_cases n % 16 <;> decide

theorem fourHex_fourDigits {n : Nat} (hn : n < 65536) : FourHex n (fourDigits n) := by
  have hvalue : ((n / 4096 % 16 * 16 + n / 256 % 16) * 16 + n / 16 % 16) * 16 + n % 16 = n := by
    omega
  have hdigits := FourHex.intro (mem_hexDigits_digitChar (n / 4096))
    (mem_hexDigits_digitChar (n / 256)) (mem_hexDigits_digitChar (n / 16))
    (mem_hexDigits_digitChar n)
  rwa [hvalue] at hdigits

/-- Strings are written with one spelling for each character. -/
theorem spelledChar_escapeChar (c : Char) : SpelledChar c (escapeChar c) := by
  rw [escapeChar]
  split_ifs with hquote hslash hback hfeed hline hreturn htab hcontrol
  · subst hquote
    exact .named .quote
  · subst hslash
    exact .named .backslash
  · subst hback
    exact .named .backspace
  · subst hfeed
    exact .named .formFeed
  · subst hline
    exact .named .lineFeed
  · subst hreturn
    exact .named .carriageReturn
  · subst htab
    exact .named .tab
  · exact .numbered (fourHex_fourDigits (by omega))
  · exact .plain ⟨hquote, hslash, Nat.not_lt.1 hcontrol⟩

theorem spelled_stringText (value : String) : Spelled value (stringText value).toList := by
  refine ⟨value.toList.map escapeChar, ?_, ?_⟩
  · exact List.forall₂_map_right_iff.2
      (List.forall₂_same.2 fun c _ => spelledChar_escapeChar c)
  · simp [stringText, List.flatMap_def]

end Canonical

section Skipping

/-- A piece is a character that stands for itself, or what a backslash introduces. -/
theorem StringPiece.cases_skip {piece : List Char} (hpiece : StringPiece piece) :
    (∃ c, piece = [c] ∧ IsPlain c) ∨
      ∃ tail, piece = '\\' :: tail ∧ ∀ s, skipEscaped (tail ++ s) = .ok s := by
  have hu : shortEscapes.lookup 'u' = none := by decide
  cases hpiece with
  | plain hplain => exact Or.inl ⟨_, rfl, hplain⟩
  | named hletter =>
      refine Or.inr ⟨_, rfl, fun s => ?_⟩
      simp [skipEscaped, hletter.lookup]
  | numbered hdigits =>
      refine Or.inr ⟨_, rfl, fun s => ?_⟩
      simp [skipEscaped, hu, hdigits.hexCode, bind, Except.bind]

theorem skipStringBody_of_stringPiece {piece : List Char} (hpiece : StringPiece piece)
    (rounds : Nat) (s : List Char) :
    skipStringBody (rounds + 1) (piece ++ s) = skipStringBody rounds s := by
  rcases hpiece.cases_skip with ⟨c, rfl, hplain⟩ | ⟨tail, rfl, hescaped⟩
  · simp [skipStringBody, hplain.ne_quote, hplain.ne_backslash, hplain.isControl]
  · simp [skipStringBody, hescaped, bind, Except.bind]

theorem skipStringBody_flatten {pieces : List (List Char)}
    (hpieces : ∀ piece ∈ pieces, StringPiece piece) (rest : List Char) {rounds : Nat}
    (hrounds : pieces.length < rounds) :
    skipStringBody rounds (pieces.flatten ++ '"' :: rest) = .ok rest := by
  induction pieces generalizing rounds with
  | nil =>
      obtain ⟨more, rfl⟩ := Nat.exists_eq_add_one_of_ne_zero (Nat.ne_of_gt hrounds)
      simp [skipStringBody]
  | cons piece pieces ih =>
      obtain ⟨more, rfl⟩ := Nat.exists_eq_add_one_of_ne_zero (Nat.ne_zero_of_lt hrounds)
      rw [List.flatten_cons, List.append_assoc,
        skipStringBody_of_stringPiece (hpieces piece List.mem_cons_self)]
      exact ih (fun other hother => hpieces other (List.mem_cons_of_mem piece hother))
        (Nat.lt_of_succ_lt_succ hrounds)

theorem skipStringTail_flatten {pieces : List (List Char)}
    (hpieces : ∀ piece ∈ pieces, StringPiece piece) (rest : List Char) :
    skipStringTail (pieces.flatten ++ '"' :: rest) = .ok rest := by
  have hne : ∀ piece ∈ pieces, piece ≠ [] := by
    intro piece hpiece
    cases hpieces piece hpiece <;> exact List.cons_ne_nil _ _
  have hlength := length_le_length_flatten hne
  refine skipStringBody_flatten hpieces rest ?_
  rw [List.length_append]
  omega

end Skipping

end OpeningTimes.Json

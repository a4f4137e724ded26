import OpeningTimes.Proofs.Json.Unspelling

/-!
What is passed over is well-formed.  Passing over a value takes blanks and then the text of a JSON
value, so every text that is read is one.
-/

namespace OpeningTimes.Json

theorem exists_blanks (s : List Char) : ∃ blanks, AllBlank blanks ∧ s = blanks ++ skipBlank s :=
  ⟨s.takeWhile isBlank, List.all_eq_true.1 List.all_takeWhile,
    List.takeWhile_append_dropWhile.symm⟩

theorem exists_blanks_of_skipBlank {s t : List Char} (hskip : skipBlank s = t) :
    ∃ blanks, AllBlank blanks ∧ s = blanks ++ t :=
  hskip ▸ exists_blanks s

section Numbers

variable {cut : Cause} {s rest : List Char}

theorem someDigits_of_read {found : List Char} (hread : someDigits cut s = .ok (found, rest)) :
    SomeDigits found ∧ s = found ++ rest := by
  unfold someDigits at hread
  split at hread
  · cases hread
  · next c s =>
    split at hread
    · next hc =>
      have hdigits := Except.ok.inj hread
      refine someDigits_of_digits hdigits ?_
      rintro rfl
      simp [digits, hc] at hdigits
    · cases hread

theorem isWhole_of_read {found : List Char} (hread : wholePart cut s = .ok (found, rest)) :
    IsWhole found ∧ s = found ++ rest := by
  obtain ⟨⟨digits, left⟩, hdigits, hread⟩ := bind_eq_ok.1 hread
  split at hread
  · cases hread
  · next hzero =>
    obtain ⟨rfl, rfl⟩ := Prod.mk.inj (Except.ok.inj hread)
    obtain ⟨hsome, hs⟩ := someDigits_of_read hdigits
    refine ⟨⟨hsome, ?_⟩, hs⟩
    rintro tail rfl
    cases tail with
    | nil => rfl
    | cons c tail => exact absurd rfl (hzero c tail left)

theorem isFraction_of_read {fraction : Option (List Char)}
    (hread : fractionPart cut s = .ok (fraction, rest)) :
    ∃ text, IsFraction fraction text ∧ s = text ++ rest := by
  unfold fractionPart at hread
  split at hread
  · obtain ⟨⟨found, left⟩, hfound, hread⟩ := bind_eq_ok.1 hread
    obtain ⟨rfl, rfl⟩ := Prod.mk.inj (Except.ok.inj hread)
    obtain ⟨hdigits, rfl⟩ := someDigits_of_read hfound
    exact ⟨'.' :: found, .written hdigits, rfl⟩
  · obtain ⟨rfl, rfl⟩ := Prod.mk.inj (Except.ok.inj hread)
    exact ⟨[], .absent, rfl⟩

theorem exists_sign (s : List Char) :
    ∃ sign, IsSign (signPart s).1 sign ∧ s = sign ++ (signPart s).2 := by
  unfold signPart
  split
  · exact ⟨['-'], .minus, rfl⟩
  · exact ⟨['+'], .plus, rfl⟩
  · exact ⟨[], .absent, rfl⟩

theorem isExponent_of_read {exponent : Option (Bool × List Char)}
    (hread : exponentPart cut s = .ok (exponent, rest)) :
    ∃ text, IsExponent exponent text ∧ s = text ++ rest := by
  unfold exponentPart at hread
  split at hread
  · obtain ⟨rfl, rfl⟩ := Prod.mk.inj (Except.ok.inj hread)
    exact ⟨[], .absent, rfl⟩
  · next mark tail =>
    split at hread
    · next hmark =>
      obtain ⟨⟨found, left⟩, hfound, hread⟩ := bind_eq_ok.1 hread
      obtain ⟨rfl, rfl⟩ := Prod.mk.inj (Except.ok.inj hread)
      obtain ⟨hdigits, htail⟩ : SomeDigits found ∧ (signPart tail).2 = found ++ left :=
        someDigits_of_read hfound
      obtain ⟨sign, hsign, hs⟩ := exists_sign tail
      refine ⟨mark :: (sign ++ found), .written hmark hsign hdigits, ?_⟩
      rw [List.cons_append, List.append_assoc, ← htail, ← hs]
    · obtain ⟨rfl, rfl⟩ := Prod.mk.inj (Except.ok.inj hread)
      exact ⟨[], .absent, rfl⟩

/-- A number that is read is written in front of what is left. -/
theorem isNumber_of_read {number : NumberText} (hread : numberText cut s = .ok (number, rest)) :
    ∃ text, IsNumber number text ∧ s = text ++ rest := by
  unfold numberText at hread
  split at hread
  next negative t hstart =>
  have hs : s = (if negative then ['-'] else []) ++ t := by
    split at hstart
    · obtain ⟨rfl, rfl⟩ := Prod.mk.inj hstart
      rfl
    · obtain ⟨rfl, rfl⟩ := Prod.mk.inj hstart
      rfl
  obtain ⟨⟨whole, u⟩, hwholeRead, hread⟩ := bind_eq_ok.1 hread
  obtain ⟨⟨fraction, v⟩, hfractionRead, hread⟩ := bind_eq_ok.1 hread
  obtain ⟨⟨exponent, w⟩, hexponentRead, hread⟩ := bind_eq_ok.1 hread
  obtain ⟨rfl, rfl⟩ := Prod.mk.inj (Except.ok.inj hread)
  obtain ⟨hwhole, rfl⟩ := isWhole_of_read hwholeRead
  obtain ⟨fractionText, hfraction, rfl⟩ := isFraction_of_read hfractionRead
  obtain ⟨exponentText, hexponent, rfl⟩ := isExponent_of_read hexponentRead
  exact ⟨_, .intro negative hwhole hfraction hexponent, by simp [hs]⟩

end Numbers

section Strings

theorem eq_of_literal {word s rest : List Char} (hread : literal word s = .ok rest) :
    s = word ++ rest := by
  induction word generalizing s with
  | nil => exact Except.ok.inj hread
  | cons expected word ih =>
      cases s with
      | nil => cases hread
      | cons c s =>
          rw [literal] at hread
          split at hread
          · next hc => rw [hc, ih hread, List.cons_append]
          · cases hread

theorem stringPiece_of_skipEscaped {s rest : List Char} (hskip : skipEscaped s = .ok rest) :
    ∃ tail, StringPiece ('\\' :: tail) ∧ s = tail ++ rest := by
  unfold skipEscaped at hskip
  split at hskip
  · cases hskip
  · next letter s =>
    split at hskip
    · next value hletter =>
      obtain rfl := Except.ok.inj hskip
      exact ⟨[letter], .named (escapeLetter_of_lookup hletter), rfl⟩
    · split at hskip
      · next hu =>
        obtain ⟨⟨code, left⟩, hcode, hskip⟩ := bind_eq_ok.1 hskip
        obtain rfl := Except.ok.inj hskip
        obtain ⟨digits, hdigits, rfl⟩ := fourHex_of_hexCode hcode
        exact ⟨'u' :: digits, .numbered hdigits, by rw [hu]; rfl⟩
      · cases hskip

/-- The run: a string consists of pieces up to its closing quote. -/
theorem pieces_of_skipStringBody {rounds : Nat} {s rest : List Char}
    (hskip : skipStringBody rounds s = .ok rest) :
    ∃ pieces : List (List Char), (∀ piece ∈ pieces, StringPiece piece) ∧
      s = pieces.flatten ++ '"' :: rest := by
  induction rounds generalizing s with
  | zero => cases hskip
  | succ rounds ih =>
      cases s with
      | nil => cases hskip
      | cons c s =>
          rw [skipStringBody] at hskip
          split at hskip
          · next hquote =>
            obtain rfl := Except.ok.inj hskip
            exact ⟨[], by simp, by simp [hquote]⟩
          · next hquote =>
            split at hskip
            · next hslash =>
              obtain ⟨t, hescaped, hmore⟩ := bind_eq_ok.1 hskip
              obtain ⟨tail, htail, rfl⟩ := stringPiece_of_skipEscaped hescaped
              obtain ⟨pieces, hpieces, rfl⟩ := ih hmore
              exact ⟨('\\' :: tail) :: pieces, List.forall_mem_cons.2 ⟨htail, hpieces⟩,
                by simp [hslash]⟩
            · next hslash =>
              split at hskip
              · cases hskip
              · next hcontrol =>
                obtain ⟨pieces, hpieces, rfl⟩ := ih hskip
                have hplain : IsPlain c := ⟨hquote, hslash, by simpa [isControl] using hcontrol⟩
                exact ⟨[c] :: pieces, List.forall_mem_cons.2 ⟨.plain hplain, hpieces⟩, by simp⟩

theorem isString_of_skipStringTail {s rest : List Char} (hskip : skipStringTail s = .ok rest) :
    ∃ tail, IsString ('"' :: tail) ∧ s = tail ++ rest := by
  obtain ⟨pieces, hpieces, rfl⟩ := pieces_of_skipStringBody hskip
  exact ⟨pieces.flatten ++ ['"'], ⟨pieces, hpieces, rfl⟩, by simp⟩

end Strings

/-- A value that is no list and no object is taken at once. -/
theorem wellFormed_of_skipScalar {c : Char} {s rest : List Char}
    (hskip : skipScalar c s = .ok rest) : ∃ text, WellFormed text ∧ c :: s = text ++ rest := by
  unfold skipScalar at hskip
  split_ifs at hskip with hnull htrue hfalse hquote hnumber
  · exact ⟨_, .null, by rw [hnull, eq_of_literal hskip]; simp⟩
  · exact ⟨_, .boolean true, by rw [htrue, eq_of_literal hskip]; simp⟩
  · exact ⟨_, .boolean false, by rw [hfalse, eq_of_literal hskip]; simp⟩
  · obtain ⟨tail, hstring, rfl⟩ := isString_of_skipStringTail hskip
    exact ⟨_, .string hstring, by rw [hquote]; simp⟩
  · obtain ⟨⟨number, left⟩, hnumber, hskip⟩ := bind_eq_ok.1 hskip
    obtain rfl := Except.ok.inj hskip
    obtain ⟨text, htext, hs⟩ := isNumber_of_read hnumber
    exact ⟨text, .number htext, hs⟩

/-- The text starts with a value, perhaps behind blanks. -/
def Holds (s rest : List Char) : Prop :=
  ∃ blanks text, AllBlank blanks ∧ WellFormed text ∧ s = blanks ++ (text ++ rest)

/-- The text starts with one or more values between commas and a closing bracket. -/
def HoldsElements (s rest : List Char) : Prop :=
  ∃ (item : Unit) (items : List Unit) (text : List Char),
    Separated (fun _ => WellFormed) (item :: items) text ∧ s = text ++ ']' :: rest

/-- The text starts with one or more members between commas and a closing brace. -/
def HoldsMembers (s rest : List Char) : Prop :=
  ∃ (member : Unit × Unit) (members : List (Unit × Unit)) (text : List Char),
    Separated (MemberText (fun _ => IsString) (fun _ => WellFormed)) (member :: members) text ∧
      s = text ++ '\x7d' :: rest

section Steps

variable {rounds : Nat} {s rest : List Char}

/-- The step of a value. -/
theorem holds_succ
    (helements : ∀ s rest, skipElementsIn rounds s = .ok rest → HoldsElements s rest)
    (hmembers : ∀ s rest, skipMembersIn rounds s = .ok rest → HoldsMembers s rest)
    (hskip : skipValueIn (rounds + 1) s = .ok rest) : Holds s rest := by
  rcases skipValueIn_succ_iff.1 hskip with ⟨t, hs, hlist⟩ | ⟨t, hs, hobject⟩ | ⟨c, t, hs, -, -, hc⟩
  · obtain ⟨before, hbefore, rfl⟩ := exists_blanks_of_skipBlank hs
    obtain ⟨items, text, hitems, rfl⟩ : ∃ (items : List Unit) (text : List Char),
        Separated (fun _ => WellFormed) items text ∧ t = text ++ ']' :: rest := by
      rcases hlist with hclose | ⟨c, u, ht, -, hmore⟩
      · obtain ⟨inner, hinner, rfl⟩ := exists_blanks_of_skipBlank hclose
        exact ⟨[], inner, .nil hinner, rfl⟩
      · obtain ⟨inner, hinner, rfl⟩ := exists_blanks_of_skipBlank ht
        obtain ⟨item, items, text, hitems, htext⟩ := helements _ _ hmore
        exact ⟨_, _, hitems.prepend_blank hinner, by rw [htext, List.append_assoc]⟩
    exact ⟨before, _, hbefore, .list hitems, by simp⟩
  · obtain ⟨before, hbefore, rfl⟩ := exists_blanks_of_skipBlank hs
    obtain ⟨members, text, hmembers, rfl⟩ : ∃ (members : List (Unit × Unit)) (text : List Char),
        Separated (MemberText (fun _ => IsString) (fun _ => WellFormed)) members text ∧
          t = text ++ '\x7d' :: rest := by
      rcases hobject with hclose | ⟨c, u, ht, -, hmore⟩
      · obtain ⟨inner, hinner, rfl⟩ := exists_blanks_of_skipBlank hclose
        exact ⟨[], inner, .nil hinner, rfl⟩
      · obtain ⟨inner, hinner, rfl⟩ := exists_blanks_of_skipBlank ht
        obtain ⟨member, members, text, hmembers, htext⟩ := hmembers _ _ hmore
        exact ⟨_, _, hmembers.prepend_blank hinner, by rw [htext, List.append_assoc]⟩
    exact ⟨before, _, hbefore, .object hmembers, by simp⟩
  · obtain ⟨before, hbefore, rfl⟩ := exists_blanks_of_skipBlank hs
    obtain ⟨text, hformed, htext⟩ := wellFormed_of_skipScalar hc
    exact ⟨before, text, hbefore, hformed, by rw [htext]⟩

/-- The step of elements. -/
theorem holdsElements_succ (hvalue : ∀ s rest, skipValueIn rounds s = .ok rest → Holds s rest)
    (helements : ∀ s rest, skipElementsIn rounds s = .ok rest → HoldsElements s rest)
    (hskip : skipElementsIn (rounds + 1) s = .ok rest) : HoldsElements s rest := by
  obtain ⟨t, ht, hends⟩ := skipElementsIn_succ_iff.1 hskip
  obtain ⟨before, text, hbefore, hformed, rfl⟩ := hvalue _ _ ht
  rcases hends with hclose | ⟨u, hcomma, hmore⟩
  · obtain ⟨after, hafter, rfl⟩ := exists_blanks_of_skipBlank hclose
    exact ⟨(), [], _, .last hbefore hformed hafter, by simp⟩
  · obtain ⟨after, hafter, rfl⟩ := exists_blanks_of_skipBlank hcomma
    obtain ⟨item, items, texts, hitems, rfl⟩ := helements _ _ hmore
    exact ⟨(), item :: items, _, .more hbefore hformed hafter hitems, by simp⟩

theorem exists_blanks_of_colon (hcolon : colon s = .ok rest) :
    ∃ blanks, AllBlank blanks ∧ s = blanks ++ ':' :: rest := by
  unfold colon at hcolon
  split at hcolon
  · cases hcolon
  · next c t ht =>
    split at hcolon
    · next hc =>
      obtain rfl := Except.ok.inj hcolon
      exact exists_blanks_of_skipBlank (hc ▸ ht)
    · cases hcolon

/-- The step of members. -/
theorem holdsMembers_succ (hvalue : ∀ s rest, skipValueIn rounds s = .ok rest → Holds s rest)
    (hmembers : ∀ s rest, skipMembersIn rounds s = .ok rest → HoldsMembers s rest)
    (hskip : skipMembersIn (rounds + 1) s = .ok rest) : HoldsMembers s rest := by
  obtain ⟨t, u, v, w, hs, hkey, hcolon, hw, hends⟩ := skipMembersIn_succ_iff.1 hskip
  obtain ⟨before, hbefore, rfl⟩ := exists_blanks_of_skipBlank hs
  obtain ⟨tail, hstring, rfl⟩ := isString_of_skipStringTail hkey
  obtain ⟨between, hbetween, rfl⟩ := exists_blanks_of_colon hcolon
  obtain ⟨inner, text, hinner, hformed, rfl⟩ := hvalue _ _ hw
  have hmember : MemberText (fun _ : Unit => IsString) (fun _ : Unit => WellFormed) ((), ())
      ('"' :: tail ++ (between ++ ':' :: (inner ++ text))) :=
    .intro hstring hbetween hinner hformed
  rcases hends with hclose | ⟨x, hcomma, hmore⟩
  · obtain ⟨after, hafter, rfl⟩ := exists_blanks_of_skipBlank hclose
    exact ⟨((), ()), [], _, .last hbefore hmember hafter, by simp⟩
  · obtain ⟨after, hafter, rfl⟩ := exists_blanks_of_skipBlank hcomma
    obtain ⟨member, members, texts, htexts, rfl⟩ := hmembers _ _ hmore
    exact ⟨((), ()), member :: members, _, .more hbefore hmember hafter htexts, by simp⟩

end Steps

/-- The run: whatever is passed over is a value, or elements or members and what closes them. -/
theorem holds_of_skip (rounds : Nat) :
    (∀ s rest, skipValueIn rounds s = .ok rest → Holds s rest) ∧
    (∀ s rest, skipElementsIn rounds s = .ok rest → HoldsElements s rest) ∧
    (∀ s rest, skipMembersIn rounds s = .ok rest → HoldsMembers s rest) := by
  induction rounds with
  | zero => simp [skipValueIn, skipElementsIn, skipMembersIn]
  | succ rounds ih =>
      obtain ⟨hvalue, helements, hmembers⟩ := ih
      exact ⟨fun _ _ => holds_succ helements hmembers,
        fun _ _ => holdsElements_succ hvalue helements,
        fun _ _ => holdsMembers_succ hvalue hmembers⟩

theorem Passes.holds {s rest : List Char} (hpasses : Passes s rest) : Holds s rest := by
  obtain ⟨rounds, hskip⟩ := hpasses
  exact (holds_of_skip rounds).1 _ _ hskip

/-- A text that is decoded is a value with blanks before and after it. -/
theorem Skims.exists_content {α : Type} {read : Decoder α} (hskims : Skims read) {text : String}
    {value : α} (hread : Decoder.decode read text = .ok value) :
    ∃ before content after, AllBlank before ∧ AllBlank after ∧ WellFormed content ∧
      text.toList = before ++ (content ++ after) := by
  unfold Decoder.decode at hread
  split at hread
  · next found hwhole =>
    obtain ⟨⟨other, rest⟩, hother, hwhole⟩ := bind_eq_ok.1 hwhole
    obtain ⟨before, content, hbefore, hcontent, htext⟩ := (hskims _ _ _ hother).holds
    dsimp only at hwhole
    split at hwhole
    · next hblank =>
      obtain ⟨after, hafter, rfl⟩ := exists_blanks_of_skipBlank hblank
      rw [List.append_nil] at htext
      exact ⟨before, content, after, hbefore, hafter, hcontent, htext⟩
    · cases hwhole
  · cases hread

end OpeningTimes.Json

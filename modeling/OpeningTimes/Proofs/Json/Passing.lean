import OpeningTimes.Proofs.Json.WellFormed

/-!
What decoders take.  Whatever a decoder reads as a value is a value that is passed over, so a
decoder that reads a well-formed text stops where the text ends.
-/

namespace OpeningTimes.Json

/-- Two steps succeed when each does. -/
theorem bind_eq_ok {ε α β : Type} {first : Except ε α} {next : α → Except ε β} {value : β} :
    (first >>= next) = .ok value ↔ ∃ middle, first = .ok middle ∧ next middle = .ok value := by
  cases first <;> simp [bind, Except.bind]

/-- All that passing over a value can be. -/
theorem skipValueIn_succ_iff {rounds : Nat} {s rest : List Char} :
    skipValueIn (rounds + 1) s = .ok rest ↔
      (∃ t, skipBlank s = '[' :: t ∧ (skipBlank t = ']' :: rest ∨
        ∃ c u, skipBlank t = c :: u ∧ c ≠ ']' ∧ skipElementsIn rounds (c :: u) = .ok rest)) ∨
      (∃ t, skipBlank s = '\x7b' :: t ∧ (skipBlank t = '\x7d' :: rest ∨
        ∃ c u, skipBlank t = c :: u ∧ c ≠ '\x7d' ∧ skipMembersIn rounds (c :: u) = .ok rest)) ∨
      ∃ c t, skipBlank s = c :: t ∧ c ≠ '[' ∧ c ≠ '\x7b' ∧ skipScalar c t = .ok rest := by
  rw [skipValueIn]
  cases hs : skipBlank s with
  | nil => simp
  | cons c t =>
      by_cases hlist : c = '['
      · subst hlist
        cases ht : skipBlank t with
        | nil => simp [ht]
        | cons d u => by_cases hclose : d = ']' <;> simp [ht, hclose]
      · by_cases hobject : c = '\x7b'
        · subst hobject
          cases ht : skipBlank t with
          | nil => simp [ht]
          | cons d u => by_cases hclose : d = '\x7d' <;> simp [ht, hclose]
        · simp [hlist, hobject]

/-- All that passing over elements can be. -/
theorem skipElementsIn_succ_iff {rounds : Nat} {s rest : List Char} :
    skipElementsIn (rounds + 1) s = .ok rest ↔
      ∃ t, skipValueIn rounds s = .ok t ∧ (skipBlank t = ']' :: rest ∨
        ∃ u, skipBlank t = ',' :: u ∧ skipElementsIn rounds u = .ok rest) := by
  rw [skipElementsIn]
  cases hvalue : skipValueIn rounds s with
  | error fault => simp [bind, Except.bind]
  | ok t =>
      cases ht : skipBlank t with
      | nil => simp [ht, bind, Except.bind]
      | cons c u =>
          by_cases hcomma : c = ','
          · simp [ht, hcomma, bind, Except.bind]
          · by_cases hclose : c = ']' <;> simp [ht, hcomma, hclose, bind, Except.bind]

/-- All that passing over members can be. -/
theorem skipMembersIn_succ_iff {rounds : Nat} {s rest : List Char} :
    skipMembersIn (rounds + 1) s = .ok rest ↔
      ∃ t u v w, skipBlank s = '"' :: t ∧ skipStringTail t = .ok u ∧ colon u = .ok v ∧
        skipValueIn rounds v = .ok w ∧ (skipBlank w = '\x7d' :: rest ∨
          ∃ x, skipBlank w = ',' :: x ∧ skipMembersIn rounds x = .ok rest) := by
  rw [skipMembersIn]
  cases hs : skipBlank s with
  | nil => simp
  | cons quote t =>
      by_cases hquote : quote = '"'
      · subst hquote
        cases hkey : skipStringTail t with
        | error fault => simp [hkey, bind, Except.bind]
        | ok u =>
            cases hcolon : colon u with
            | error fault => simp [hkey, hcolon, bind, Except.bind]
            | ok v =>
                cases hvalue : skipValueIn rounds v with
                | error fault => simp [hkey, hcolon, hvalue, bind, Except.bind]
                | ok w =>
                    cases hw : skipBlank w with
                    | nil => simp [hkey, hcolon, hvalue, hw, bind, Except.bind]
                    | cons c x =>
                        by_cases hcomma : c = ','
                        · simp [hkey, hcolon, hvalue, hw, hcomma, bind, Except.bind]
                        · by_cases hclose : c = '\x7d' <;>
                            simp [hkey, hcolon, hvalue, hw, hcomma, hclose, bind, Except.bind]
      · simp [hquote]

/-- One more step changes nothing once there were enough. -/
theorem skip_succ (rounds : Nat) :
    (∀ s rest, skipValueIn rounds s = .ok rest → skipValueIn (rounds + 1) s = .ok rest) ∧
    (∀ s rest, skipElementsIn rounds s = .ok rest → skipElementsIn (rounds + 1) s = .ok rest) ∧
    (∀ s rest, skipMembersIn rounds s = .ok rest → skipMembersIn (rounds + 1) s = .ok rest) := by
  induction rounds with
  | zero => simp [skipValueIn, skipElementsIn, skipMembersIn]
  | succ rounds ih =>
      obtain ⟨hvalue, helements, hmembers⟩ := ih
      refine ⟨fun s rest hskip => ?_, fun s rest hskip => ?_, fun s rest hskip => ?_⟩
      · rw [skipValueIn_succ_iff] at hskip ⊢
        refine hskip.imp ?_ (Or.imp_left ?_)
        · rintro ⟨t, hs, hclose | ⟨c, u, ht, hc, hmore⟩⟩
          · exact ⟨t, hs, Or.inl hclose⟩
          · exact ⟨t, hs, Or.inr ⟨c, u, ht, hc, helements _ _ hmore⟩⟩
        · rintro ⟨t, hs, hclose | ⟨c, u, ht, hc, hmore⟩⟩
          · exact ⟨t, hs, Or.inl hclose⟩
          · exact ⟨t, hs, Or.inr ⟨c, u, ht, hc, hmembers _ _ hmore⟩⟩
      · rw [skipElementsIn_succ_iff] at hskip ⊢
        obtain ⟨t, ht, hclose | ⟨u, hu, hmore⟩⟩ := hskip
        · exact ⟨t, hvalue _ _ ht, Or.inl hclose⟩
        · exact ⟨t, hvalue _ _ ht, Or.inr ⟨u, hu, helements _ _ hmore⟩⟩
      · rw [skipMembersIn_succ_iff] at hskip ⊢
        obtain ⟨t, u, v, w, hs, hkey, hcolon, hw, hclose | ⟨x, hx, hmore⟩⟩ := hskip
        · exact ⟨t, u, v, w, hs, hkey, hcolon, hvalue _ _ hw, Or.inl hclose⟩
        · exact ⟨t, u, v, w, hs, hkey, hcolon, hvalue _ _ hw,
            Or.inr ⟨x, hx, hmembers _ _ hmore⟩⟩

/-- More steps change nothing once there were enough. -/
theorem skip_mono {fewer rounds : Nat} (hrounds : fewer ≤ rounds) :
    (∀ s rest, skipValueIn fewer s = .ok rest → skipValueIn rounds s = .ok rest) ∧
    (∀ s rest, skipElementsIn fewer s = .ok rest → skipElementsIn rounds s = .ok rest) ∧
    (∀ s rest, skipMembersIn fewer s = .ok rest → skipMembersIn rounds s = .ok rest) := by
  induction hrounds with
  | refl => exact ⟨fun _ _ h => h, fun _ _ h => h, fun _ _ h => h⟩
  | step _ ih =>
      obtain ⟨hvalue, helements, hmembers⟩ := skip_succ _
      exact ⟨fun _ _ h => hvalue _ _ (ih.1 _ _ h), fun _ _ h => helements _ _ (ih.2.1 _ _ h),
        fun _ _ h => hmembers _ _ (ih.2.2 _ _ h)⟩

/-- A value at the start of the text is passed over, and the rest is left. -/
def Passes (s rest : List Char) : Prop :=
  ∃ rounds, skipValueIn rounds s = .ok rest

/-- The elements of a list and its closing bracket are passed over. -/
def PassesElements (s rest : List Char) : Prop :=
  ∃ rounds, skipElementsIn rounds s = .ok rest

/-- The members of an object and its closing brace are passed over. -/
def PassesMembers (s rest : List Char) : Prop :=
  ∃ rounds, skipMembersIn rounds s = .ok rest

theorem Passes.unique {s rest other : List Char} (hrest : Passes s rest) (hother : Passes s other) :
    rest = other := by
  obtain ⟨rounds, hrest⟩ := hrest
  obtain ⟨more, hother⟩ := hother
  have hboth := (skip_mono (Nat.le_max_left rounds more)).1 _ _ hrest
  rw [(skip_mono (Nat.le_max_right rounds more)).1 _ _ hother] at hboth
  exact (Except.ok.inj hboth).symm

theorem WellFormed.passes {text blanks rest : List Char} (hformed : WellFormed text)
    (hblanks : AllBlank blanks) (hends : Ends rest) : Passes (blanks ++ (text ++ rest)) rest :=
  ⟨_, hformed.skipValue hblanks hends⟩

theorem passes_scalar {s t rest : List Char} {c : Char} (hs : skipBlank s = c :: t)
    (hlist : c ≠ '[') (hobject : c ≠ '\x7b') (hskip : skipScalar c t = .ok rest) : Passes s rest :=
  ⟨1, skipValueIn_succ_iff.2 (Or.inr (Or.inr ⟨c, t, hs, hlist, hobject, hskip⟩))⟩

theorem passes_list_nil {s t rest : List Char} (hs : skipBlank s = '[' :: t)
    (ht : skipBlank t = ']' :: rest) : Passes s rest :=
  ⟨1, skipValueIn_succ_iff.2 (Or.inl ⟨t, hs, Or.inl ht⟩)⟩

theorem passes_list {s t u rest : List Char} {c : Char} (hs : skipBlank s = '[' :: t)
    (ht : skipBlank t = c :: u) (hc : c ≠ ']') (hskip : PassesElements (c :: u) rest) :
    Passes s rest := by
  obtain ⟨rounds, hskip⟩ := hskip
  exact ⟨rounds + 1, skipValueIn_succ_iff.2 (Or.inl ⟨t, hs, Or.inr ⟨c, u, ht, hc, hskip⟩⟩)⟩

theorem passes_object_nil {s t rest : List Char} (hs : skipBlank s = '\x7b' :: t)
    (ht : skipBlank t = '\x7d' :: rest) : Passes s rest :=
  ⟨1, skipValueIn_succ_iff.2 (Or.inr (Or.inl ⟨t, hs, Or.inl ht⟩))⟩

theorem passes_object {s t u rest : List Char} {c : Char} (hs : skipBlank s = '\x7b' :: t)
    (ht : skipBlank t = c :: u) (hc : c ≠ '\x7d') (hskip : PassesMembers (c :: u) rest) :
    Passes s rest := by
  obtain ⟨rounds, hskip⟩ := hskip
  exact ⟨rounds + 1,
    skipValueIn_succ_iff.2 (Or.inr (Or.inl ⟨t, hs, Or.inr ⟨c, u, ht, hc, hskip⟩⟩))⟩

/-- What follows an element closes the list, or more elements do after a comma. -/
def EndsElements (s rest : List Char) : Prop :=
  skipBlank s = ']' :: rest ∨ ∃ t, skipBlank s = ',' :: t ∧ PassesElements t rest

/-- What follows a member closes the object, or more members do after a comma. -/
def EndsMembers (s rest : List Char) : Prop :=
  skipBlank s = '\x7d' :: rest ∨ ∃ t, skipBlank s = ',' :: t ∧ PassesMembers t rest

theorem passesElements_of_passes {s t rest : List Char} (hvalue : Passes s t)
    (hends : EndsElements t rest) : PassesElements s rest := by
  obtain ⟨rounds, hvalue⟩ := hvalue
  rcases hends with hclose | ⟨u, ht, more, hmore⟩
  · exact ⟨rounds + 1, skipElementsIn_succ_iff.2 ⟨t, hvalue, Or.inl hclose⟩⟩
  · have hvalue := (skip_mono (Nat.le_max_left rounds more)).1 _ _ hvalue
    have hmore := (skip_mono (Nat.le_max_right rounds more)).2.1 _ _ hmore
    exact ⟨_, skipElementsIn_succ_iff.2 ⟨t, hvalue, Or.inr ⟨u, ht, hmore⟩⟩⟩

theorem passesMembers_of_passes {s t u v w rest : List Char} (hs : skipBlank s = '"' :: t)
    (hkey : skipStringTail t = .ok u) (hcolon : colon u = .ok v) (hvalue : Passes v w)
    (hends : EndsMembers w rest) : PassesMembers s rest := by
  obtain ⟨rounds, hvalue⟩ := hvalue
  rcases hends with hclose | ⟨x, hw, more, hmore⟩
  · exact ⟨rounds + 1,
      skipMembersIn_succ_iff.2 ⟨t, u, v, w, hs, hkey, hcolon, hvalue, Or.inl hclose⟩⟩
  · have hvalue := (skip_mono (Nat.le_max_left rounds more)).1 _ _ hvalue
    have hmore := (skip_mono (Nat.le_max_right rounds more)).2.2 _ _ hmore
    exact ⟨_,
      skipMembersIn_succ_iff.2 ⟨t, u, v, w, hs, hkey, hcolon, hvalue, Or.inr ⟨x, hw, hmore⟩⟩⟩

/-- Whatever the decoder reads is passed over. -/
def Skims {α : Type} (read : Decoder α) : Prop :=
  ∀ s value rest, read s = .ok (value, rest) → Passes s rest

/-- A decoder of this sort stops where a well-formed text ends. -/
theorem Skims.rest_eq {α : Type} {read : Decoder α} (hskims : Skims read)
    {text blanks rest left : List Char} {value : α} (hformed : WellFormed text)
    (hblanks : AllBlank blanks) (hends : Ends rest)
    (hread : read (blanks ++ (text ++ rest)) = .ok (value, left)) : left = rest :=
  (hskims _ _ _ hread).unique (hformed.passes hblanks hends)

section Scalars

theorem skims_boolean : Skims Decoder.boolean := by
  intro s value rest hread
  unfold Decoder.boolean at hread
  split at hread
  · next t hs =>
    obtain ⟨left, hliteral, hleft⟩ := bind_eq_ok.1 hread
    obtain ⟨-, rfl⟩ : true = value ∧ left = rest := by simpa using hleft
    exact passes_scalar hs (by decide) (by decide) hliteral
  · next t hs =>
    obtain ⟨left, hliteral, hleft⟩ := bind_eq_ok.1 hread
    obtain ⟨-, rfl⟩ : false = value ∧ left = rest := by simpa using hleft
    exact passes_scalar hs (by decide) (by decide) hliteral
  · cases hread

theorem length_of_hexCode {s rest : List Char} {code : Nat} (hread : hexCode s = .ok (code, rest)) :
    rest.length ≤ s.length := by
  unfold hexCode at hread
  split at hread
  · next hhex =>
    obtain ⟨rfl, rfl⟩ := Prod.mk.inj (Except.ok.inj hread)
    unfold fourHex? at hhex
    split at hhex
    · split at hhex
      · obtain ⟨-, rfl⟩ := Prod.mk.inj (Option.some.inj hhex)
        simp only [List.length_cons]
        omega
      · cases hhex
    · cases hhex
  · split at hread <;> cases hread

theorem length_of_skipEscaped {s rest : List Char} (hskip : skipEscaped s = .ok rest) :
    rest.length ≤ s.length := by
  unfold skipEscaped at hskip
  split at hskip
  · cases hskip
  · next c s =>
    split at hskip
    · obtain rfl := Except.ok.inj hskip
      simp
    · split at hskip
      · obtain ⟨⟨code, left⟩, hcode, hleft⟩ := bind_eq_ok.1 hskip
        obtain rfl := Except.ok.inj hleft
        have := length_of_hexCode hcode
        simp only [List.length_cons]
        omega
      · cases hskip

theorem eq_of_pairPart {expected : Char} {s rest : List Char}
    (hread : pairPart expected s = .ok rest) : s = expected :: rest := by
  unfold pairPart at hread
  split at hread
  · cases hread
  · split at hread
    · next hc => rw [hc, Except.ok.inj hread]
    · cases hread

theorem skipEscaped_u {s rest : List Char} {code : Nat} (hread : hexCode s = .ok (code, rest)) :
    skipEscaped ('u' :: s) = .ok rest := by
  have hu : shortEscapes.lookup 'u' = none := by decide
  simp [skipEscaped, hu, hread, bind, Except.bind]

/-- What a backslash introduces is passed over, in two parts if it is a pair. -/
theorem skipEscaped_of_escaped {s rest : List Char} {c : Char} (hread : escaped s = .ok (c, rest)) :
    skipEscaped s = .ok rest ∨
      ∃ t, skipEscaped s = .ok ('\\' :: t) ∧ skipEscaped t = .ok rest := by
  unfold escaped at hread
  split at hread
  · cases hread
  · next letter s =>
    split at hread
    · next value hletter =>
      obtain ⟨-, rfl⟩ := Prod.mk.inj (Except.ok.inj hread)
      exact Or.inl (by simp [skipEscaped, hletter])
    · split at hread
      · next hu =>
        subst hu
        obtain ⟨⟨code, t⟩, hcode, hread⟩ := bind_eq_ok.1 hread
        dsimp only at hread
        split at hread
        · cases hread
        · split at hread
          · obtain ⟨u, hslash, hread⟩ := bind_eq_ok.1 hread
            obtain ⟨v, hmark, hread⟩ := bind_eq_ok.1 hread
            obtain ⟨⟨low, w⟩, hlow, hread⟩ := bind_eq_ok.1 hread
            dsimp only at hread
            split at hread
            · obtain ⟨-, rfl⟩ := Prod.mk.inj (Except.ok.inj hread)
              obtain rfl := eq_of_pairPart hslash
              obtain rfl := eq_of_pairPart hmark
              exact Or.inr ⟨_, skipEscaped_u hcode, skipEscaped_u hlow⟩
            · cases hread
          · obtain ⟨-, rfl⟩ := Prod.mk.inj (Except.ok.inj hread)
            exact Or.inl (skipEscaped_u hcode)
      · cases hread

theorem skipStringBody_escape {s t : List Char} (hskip : skipEscaped s = .ok t) (rounds : Nat) :
    skipStringBody (rounds + 1) ('\\' :: s) = skipStringBody rounds t := by
  simp [skipStringBody, hskip, bind, Except.bind]

/-- A string that is read is passed over, in as many steps as it has characters or more. -/
theorem skipStringBody_of_stringBody {fewer : Nat} {s rest body : List Char}
    (hread : stringBody fewer s = .ok (body, rest)) {rounds : Nat} (hrounds : s.length < rounds) :
    skipStringBody rounds s = .ok rest := by
  induction fewer generalizing s body rounds with
  | zero => cases hread
  | succ fewer ih =>
      cases s with
      | nil => cases hread
      | cons c s =>
          obtain ⟨rounds, rfl⟩ := Nat.exists_eq_add_one_of_ne_zero (Nat.ne_zero_of_lt hrounds)
          have hmore : s.length < rounds := Nat.lt_of_succ_lt_succ hrounds
          rw [stringBody] at hread
          split at hread
          · next hquote =>
            obtain ⟨-, rfl⟩ := Prod.mk.inj (Except.ok.inj hread)
            simp [skipStringBody, hquote]
          · split at hread
            · next hquote hslash =>
              subst hslash
              obtain ⟨⟨value, t⟩, hescaped, hread⟩ := bind_eq_ok.1 hread
              obtain ⟨⟨more, u⟩, hbody, hread⟩ := bind_eq_ok.1 hread
              obtain ⟨-, rfl⟩ := Prod.mk.inj (Except.ok.inj hread)
              rcases skipEscaped_of_escaped hescaped with hskip | ⟨v, hskip, hsecond⟩
              · have hlength := length_of_skipEscaped hskip
                rw [skipStringBody_escape hskip]
                exact ih hbody (by omega)
              · -- The second half of a pair takes a step of its own.
                have hlength := length_of_skipEscaped hskip
                have hshorter := length_of_skipEscaped hsecond
                simp only [List.length_cons] at hlength
                obtain ⟨less, rfl⟩ := Nat.exists_eq_add_one_of_ne_zero (Nat.ne_zero_of_lt hmore)
                rw [skipStringBody_escape hskip, skipStringBody_escape hsecond]
                exact ih hbody (by omega)
            · next hquote hslash =>
              split at hread
              · cases hread
              · next hcontrol =>
                obtain ⟨⟨more, u⟩, hbody, hread⟩ := bind_eq_ok.1 hread
                obtain ⟨-, rfl⟩ := Prod.mk.inj (Except.ok.inj hread)
                simp [skipStringBody, hquote, hslash, hcontrol, ih hbody hmore]

theorem skipStringTail_of_stringTail {s rest : List Char} {value : String}
    (hread : stringTail s = .ok (value, rest)) : skipStringTail s = .ok rest := by
  obtain ⟨⟨body, left⟩, hbody, hleft⟩ := bind_eq_ok.1 hread
  obtain ⟨-, rfl⟩ := Prod.mk.inj (Except.ok.inj hleft)
  exact skipStringBody_of_stringBody hbody (Nat.lt_succ_self _)

theorem passes_string {s t rest : List Char} {value : String} (hs : skipBlank s = '"' :: t)
    (hread : stringTail t = .ok (value, rest)) : Passes s rest := by
  refine passes_scalar hs (by decide) (by decide) ?_
  simp [skipScalar, skipStringTail_of_stringTail hread]

theorem skims_string : Skims Decoder.string := by
  intro s value rest hread
  unfold Decoder.string at hread
  split at hread
  · next t hs => exact passes_string hs hread
  · cases hread

/-- A number that is read is read whatever would be reported where the text ends. -/
theorem someDigits_cut {cut : Cause} {s : List Char} {found : List Char × List Char}
    (hread : someDigits cut s = .ok found) (other : Cause) : someDigits other s = .ok found := by
  unfold someDigits at hread ⊢
  cases s with
  | nil => cases hread
  | cons c s => split at hread <;> simp_all

theorem wholePart_cut {cut : Cause} {s : List Char} {found : List Char × List Char}
    (hread : wholePart cut s = .ok found) (other : Cause) : wholePart other s = .ok found := by
  obtain ⟨middle, hdigits, hread⟩ := bind_eq_ok.1 hread
  exact bind_eq_ok.2 ⟨middle, someDigits_cut hdigits other, hread⟩

theorem fractionPart_cut {cut : Cause} {s : List Char}
    {found : Option (List Char) × List Char} (hread : fractionPart cut s = .ok found)
    (other : Cause) : fractionPart other s = .ok found := by
  unfold fractionPart at hread ⊢
  split at hread
  · obtain ⟨middle, hdigits, hread⟩ := bind_eq_ok.1 hread
    exact bind_eq_ok.2 ⟨middle, someDigits_cut hdigits other, hread⟩
  · exact hread

theorem exponentPart_cut {cut : Cause} {s : List Char}
    {found : Option (Bool × List Char) × List Char} (hread : exponentPart cut s = .ok found)
    (other : Cause) : exponentPart other s = .ok found := by
  unfold exponentPart at hread ⊢
  split at hread
  · exact hread
  · split at hread
    · next hmark =>
      rw [if_pos hmark]
      obtain ⟨middle, hdigits, hread⟩ := bind_eq_ok.1 hread
      exact bind_eq_ok.2 ⟨middle, someDigits_cut hdigits other, hread⟩
    · next hmark =>
      rw [if_neg hmark]
      exact hread

theorem numberText_cut {cut : Cause} {s : List Char} {found : NumberText × List Char}
    (hread : numberText cut s = .ok found) (other : Cause) : numberText other s = .ok found := by
  obtain ⟨whole, hwhole, hread⟩ := bind_eq_ok.1 hread
  obtain ⟨fraction, hfraction, hread⟩ := bind_eq_ok.1 hread
  obtain ⟨exponent, hexponent, hread⟩ := bind_eq_ok.1 hread
  exact bind_eq_ok.2 ⟨whole, wholePart_cut hwhole other, bind_eq_ok.2 ⟨fraction,
    fractionPart_cut hfraction other, bind_eq_ok.2 ⟨exponent, exponentPart_cut hexponent other,
      hread⟩⟩⟩

theorem skims_integerBetween (low high : Int) (wanted : Wanted) :
    Skims (Decoder.integerBetween low high wanted) := by
  intro s value rest hread
  unfold Decoder.integerBetween at hread
  split at hread
  · cases hread
  · next c t hs =>
    split at hread
    · next hstart =>
      obtain ⟨⟨found, left⟩, hnumber, hread⟩ := bind_eq_ok.1 hread
      obtain rfl : left = rest := by
        cases found with
        | double bits => cases hread
        | integer n =>
            dsimp only at hread
            split at hread
            · exact (Prod.mk.inj (Except.ok.inj hread)).2
            · cases hread
      obtain ⟨⟨text, after⟩, htext, hnumber⟩ := bind_eq_ok.1 hnumber
      obtain rfl : after = left := by
        dsimp only at hnumber
        split at hnumber
        · exact (Prod.mk.inj (Except.ok.inj hnumber)).2
        · cases hnumber
      have hfirst : c = '-' ∨ isDigit c = true := by simpa using hstart
      have hother : ∀ d, d ≠ '-' → isDigit d = false → c ≠ d := fun _ => ne_of_starts_number hfirst
      refine passes_scalar hs (hother _ (by decide) (by decide))
        (hother _ (by decide) (by decide)) ?_
      exact skipScalar_number hfirst (numberText_cut htext .badNumber)
    · cases hread

end Scalars

end OpeningTimes.Json

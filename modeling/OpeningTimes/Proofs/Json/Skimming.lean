import OpeningTimes.Proofs.Json.Passing

/-!
Decoders that are built from others.  When the parts take whole values only, so does the decoder
of the option, list or record.
-/

namespace OpeningTimes.Json

section Choices

variable {α β : Type} {read : Decoder α}

theorem Skims.map (hskims : Skims read) (f : α → β) : Skims (Decoder.map f read) := by
  intro s value rest hread
  unfold Decoder.map at hread
  split at hread
  · cases hread
  · next found left hfound =>
    obtain ⟨-, rfl⟩ := Prod.mk.inj (Except.ok.inj hread)
    exact hskims s found left hfound

theorem passes_null {s t rest : List Char} (hs : skipBlank s = 'n' :: t)
    (hliteral : literal ['u', 'l', 'l'] t = .ok rest) : Passes s rest :=
  passes_scalar hs (by decide) (by decide) hliteral

theorem passes_skipBlank {s rest : List Char} (hpasses : Passes (skipBlank s) rest) :
    Passes s rest := by
  obtain ⟨rounds, hskip⟩ := hpasses
  cases rounds with
  | zero => cases hskip
  | succ rounds => exact ⟨rounds + 1, by rw [← skipValueIn_skipBlank, hskip]⟩

theorem Skims.optional (hskims : Skims read) : Skims (Decoder.optional read) := by
  intro s value rest hread
  unfold Decoder.optional at hread
  split at hread
  · next t hs =>
    obtain ⟨left, hliteral, hleft⟩ := bind_eq_ok.1 hread
    obtain ⟨-, rfl⟩ := Prod.mk.inj (Except.ok.inj hleft)
    exact passes_null hs hliteral
  · exact passes_skipBlank (hskims.map some _ _ _ hread)

theorem skims_unit : Skims Decoder.unit := by
  intro s value rest hread
  unfold Decoder.unit at hread
  split at hread
  · next t hs =>
    obtain ⟨left, hliteral, hleft⟩ := bind_eq_ok.1 hread
    obtain ⟨-, rfl⟩ := Prod.mk.inj (Except.ok.inj hleft)
    exact passes_null hs hliteral
  · cases hread

theorem skims_oneOf (names : List (String × α)) : Skims (Decoder.oneOf names) := by
  intro s value rest hread
  unfold Decoder.oneOf at hread
  split at hread
  · cases hread
  · next t hs =>
    obtain ⟨⟨name, left⟩, hname, hread⟩ := bind_eq_ok.1 hread
    obtain ⟨found, -, hread⟩ := bind_eq_ok.1 hread
    obtain ⟨-, rfl⟩ := Prod.mk.inj (Except.ok.inj hread)
    exact passes_string hs hname
  · next t hs =>
    split at hread
    · cases hread
    · next u ht =>
      obtain ⟨⟨name, v⟩, hname, hread⟩ := bind_eq_ok.1 hread
      obtain ⟨found, -, hread⟩ := bind_eq_ok.1 hread
      obtain ⟨w, hcolon, hread⟩ := bind_eq_ok.1 hread
      obtain ⟨⟨_, x⟩, hunit, hread⟩ := bind_eq_ok.1 hread
      dsimp only at hread
      split at hread
      · cases hread
      · next left hx =>
        obtain ⟨-, rfl⟩ := Prod.mk.inj (Except.ok.inj hread)
        have hmember : PassesMembers ('"' :: u) left :=
          passesMembers_of_passes (skipBlank_token (by decide) u)
            (skipStringTail_of_stringTail hname) hcolon (skims_unit _ _ _ hunit) (Or.inl hx)
        exact passes_object hs ht (by decide) hmember
      · cases hread
    · cases hread
    · cases hread
  · cases hread

end Choices

section Lists

theorem nextElement_none {first : Bool} {s : List Char}
    (hnext : Decoder.nextElement first s = .ok none) : ∃ t, skipBlank s = ']' :: t := by
  unfold Decoder.nextElement at hnext
  grind

theorem nextElement_some {first : Bool} {s t : List Char}
    (hnext : Decoder.nextElement first s = .ok (some t)) :
    ∃ c u, t = c :: u ∧ c ≠ ']' ∧ ((first = true ∧ skipBlank s = c :: u) ∨
      (first = false ∧ ∃ v, skipBlank s = ',' :: v ∧ skipBlank v = c :: u)) := by
  unfold Decoder.nextElement at hnext
  grind

theorem passesElements_skipBlank {s rest : List Char} (hskip : PassesElements (skipBlank s) rest) :
    PassesElements s rest := by
  obtain ⟨rounds, hskip⟩ := hskip
  cases rounds with
  | zero => cases hskip
  | succ rounds =>
      obtain ⟨t, hvalue, hends⟩ := skipElementsIn_succ_iff.1 hskip
      cases rounds with
      | zero => cases hvalue
      | succ rounds =>
          rw [skipValueIn_skipBlank] at hvalue
          exact ⟨rounds + 1 + 1, skipElementsIn_succ_iff.2 ⟨t, hvalue, hends⟩⟩

/-- The list closes, or its next element and all others are passed over. -/
def PassesFrom (first : Bool) (s rest : List Char) : Prop :=
  skipBlank s = ']' :: rest ∨
    ∃ t, Decoder.nextElement first s = .ok (some t) ∧ PassesElements t rest

theorem PassesFrom.endsElements {s rest : List Char} (hpasses : PassesFrom false s rest) :
    EndsElements s rest := by
  rcases hpasses with hclose | ⟨t, hnext, helements⟩
  · exact Or.inl hclose
  · obtain ⟨c, u, rfl, -, ⟨hfirst, -⟩ | ⟨-, v, hcomma, hv⟩⟩ := nextElement_some hnext
    · cases hfirst
    · exact Or.inr ⟨v, hcomma, passesElements_skipBlank (hv ▸ helements)⟩

theorem PassesFrom.passes {s t rest : List Char} (hs : skipBlank s = '[' :: t)
    (hpasses : PassesFrom true t rest) : Passes s rest := by
  rcases hpasses with hclose | ⟨u, hnext, helements⟩
  · exact passes_list_nil hs hclose
  · obtain ⟨c, v, rfl, hc, ⟨-, ht⟩ | ⟨hfirst, -⟩⟩ := nextElement_some hnext
    · exact passes_list hs ht hc helements
    · cases hfirst

variable {α : Type} {read : Decoder α}

theorem Skims.elementsIn (hskims : Skims read) {rounds : Nat} {first : Bool} {s left : List Char}
    {values : List α} (hread : Decoder.elementsIn read rounds first s = .ok (values, left)) :
    ∃ rest, skipBlank left = ']' :: rest ∧ PassesFrom first s rest := by
  induction rounds generalizing first s values with
  | zero => cases hread
  | succ rounds ih =>
      obtain ⟨found, hnext, hread⟩ := bind_eq_ok.1 hread
      cases found with
      | none =>
          obtain ⟨-, rfl⟩ := Prod.mk.inj (Except.ok.inj hread)
          obtain ⟨rest, hclose⟩ := nextElement_none hnext
          exact ⟨rest, hclose, Or.inl hclose⟩
      | some t =>
          obtain ⟨⟨value, u⟩, hvalue, hread⟩ := bind_eq_ok.1 hread
          obtain ⟨⟨more, after⟩, hmore, hread⟩ := bind_eq_ok.1 hread
          obtain ⟨-, rfl⟩ := Prod.mk.inj (Except.ok.inj hread)
          obtain ⟨rest, hclose, hrest⟩ := ih hmore
          exact ⟨rest, hclose, Or.inr ⟨t, hnext,
            passesElements_of_passes (hskims _ _ _ hvalue) hrest.endsElements⟩⟩

theorem closeList_of_skipBlank {s rest : List Char} (hclose : skipBlank s = ']' :: rest) :
    Decoder.closeList s = rest := by
  simp [Decoder.closeList, hclose]

theorem Skims.list (hskims : Skims read) : Skims (Decoder.list read) := by
  intro s values rest hread
  unfold Decoder.list at hread
  split at hread
  · next t hs =>
    split at hread
    · cases hread
    · next found left helements =>
      obtain ⟨-, rfl⟩ := Prod.mk.inj (Except.ok.inj hread)
      obtain ⟨rest, hclose, hrest⟩ := hskims.elementsIn helements
      rw [closeList_of_skipBlank hclose]
      exact hrest.passes hs
  · cases hread

end Lists

section Records

variable {types : List Type}

def Fields.Skim : {types : List Type} → Fields types → Prop
  | [], .nil => True
  | _ :: _, .cons field fields => Skims field.read ∧ fields.Skim

/-- Behind a key stand a colon and a value that is passed over. -/
theorem Fields.Skim.member {fields : Fields types} (hskim : fields.Skim) {key : String}
    {start final : Draft types} {s rest : List Char}
    (hread : fields.member key start s = .ok (final, rest)) :
    ∃ t, colon s = .ok t ∧ Passes t rest := by
  induction fields with
  | nil =>
      obtain ⟨t, hcolon, hread⟩ := bind_eq_ok.1 hread
      obtain ⟨u, hvalue, hread⟩ := bind_eq_ok.1 hread
      obtain ⟨-, rfl⟩ := Prod.mk.inj (Except.ok.inj hread)
      exact ⟨t, hcolon, _, hvalue⟩
  | cons field fields ih =>
      obtain ⟨slot, draft⟩ := start
      by_cases hkey : key = field.name
      · subst hkey
        cases slot with
        | some value =>
            rw [member_repeated] at hread
            cases hread
        | none =>
            rw [member_fresh] at hread
            obtain ⟨t, hcolon, hread⟩ := bind_eq_ok.1 hread
            obtain ⟨⟨value, u⟩, hvalue, hread⟩ := bind_eq_ok.1 hread
            obtain ⟨-, rfl⟩ := Prod.mk.inj (Except.ok.inj hread)
            exact ⟨t, hcolon, hskim.1 _ _ _ hvalue⟩
      · rw [member_other field fields hkey] at hread
        obtain ⟨⟨other, left⟩, hmember, hread⟩ := bind_eq_ok.1 hread
        obtain ⟨-, rfl⟩ := Prod.mk.inj (Except.ok.inj hread)
        exact ih hskim.2 hmember

theorem nextKey_none {first : Bool} {s : List Char} (hnext : nextKey first s = .ok none) :
    ∃ t, skipBlank s = '\x7d' :: t := by
  unfold nextKey at hnext
  grind

theorem nextKey_some {first : Bool} {s t : List Char} (hnext : nextKey first s = .ok (some t)) :
    (first = true ∧ skipBlank s = '"' :: t) ∨
      (first = false ∧ ∃ u, skipBlank s = ',' :: u ∧ skipBlank u = '"' :: t) := by
  unfold nextKey at hnext
  grind

theorem passesMembers_skipBlank {s rest : List Char} (hskip : PassesMembers (skipBlank s) rest) :
    PassesMembers s rest := by
  obtain ⟨rounds, hskip⟩ := hskip
  cases rounds with
  | zero => cases hskip
  | succ rounds =>
      have hsame := skipMembersIn_succ_iff.1 hskip
      rw [skipBlank_skipBlank] at hsame
      exact ⟨rounds + 1, skipMembersIn_succ_iff.2 hsame⟩

/-- The object closes, or its next member and all others are passed over. -/
def PassesFromKey (first : Bool) (s rest : List Char) : Prop :=
  skipBlank s = '\x7d' :: rest ∨
    ∃ t, nextKey first s = .ok (some t) ∧ PassesMembers ('"' :: t) rest

theorem PassesFromKey.endsMembers {s rest : List Char} (hpasses : PassesFromKey false s rest) :
    EndsMembers s rest := by
  rcases hpasses with hclose | ⟨t, hnext, hmembers⟩
  · exact Or.inl hclose
  · obtain ⟨hfirst, -⟩ | ⟨-, u, hcomma, hu⟩ := nextKey_some hnext
    · cases hfirst
    · exact Or.inr ⟨u, hcomma, passesMembers_skipBlank (hu ▸ hmembers)⟩

theorem PassesFromKey.passes {s t rest : List Char} (hs : skipBlank s = '\x7b' :: t)
    (hpasses : PassesFromKey true t rest) : Passes s rest := by
  rcases hpasses with hclose | ⟨u, hnext, hmembers⟩
  · exact passes_object_nil hs hclose
  · obtain ⟨-, ht⟩ | ⟨hfirst, -⟩ := nextKey_some hnext
    · exact passes_object hs ht (by decide) hmembers
    · cases hfirst

theorem Fields.Skim.membersIn {fields : Fields types} (hskim : fields.Skim) {rounds : Nat}
    {first : Bool} {start final : Draft types} {s left : List Char}
    (hread : membersIn fields rounds first start s = .ok (final, left)) :
    ∃ rest, skipBlank left = '\x7d' :: rest ∧ PassesFromKey first s rest := by
  induction rounds generalizing first start s with
  | zero => cases hread
  | succ rounds ih =>
      obtain ⟨found, hnext, hread⟩ := bind_eq_ok.1 hread
      cases found with
      | none =>
          obtain ⟨-, rfl⟩ := Prod.mk.inj (Except.ok.inj hread)
          obtain ⟨rest, hclose⟩ := nextKey_none hnext
          exact ⟨rest, hclose, Or.inl hclose⟩
      | some t =>
          obtain ⟨⟨key, u⟩, hkey, hread⟩ := bind_eq_ok.1 hread
          obtain ⟨⟨next, w⟩, hmember, hread⟩ := bind_eq_ok.1 hread
          obtain ⟨v, hcolon, hvalue⟩ := hskim.member hmember
          obtain ⟨rest, hclose, hrest⟩ := ih hread
          exact ⟨rest, hclose, Or.inr ⟨t, hnext,
            passesMembers_of_passes (skipBlank_token (by decide) t)
              (skipStringTail_of_stringTail hkey) hcolon hvalue hrest.endsMembers⟩⟩

/-- The values by position are passed over as far as the list goes on. -/
theorem Fields.Skim.positional {fields : Fields types} (hskim : fields.Skim) {record : String}
    {total index : Nat} {values : Values types} {s left rest : List Char}
    (hread : fields.positional record total index s = .ok (values, left))
    (hclose : skipBlank left = ']' :: rest) : PassesFrom (index == 0) s rest := by
  induction fields generalizing index s with
  | nil =>
      obtain ⟨-, rfl⟩ := Prod.mk.inj (Except.ok.inj hread)
      exact Or.inl hclose
  | cons field fields ih =>
      obtain ⟨found, hnext, hread⟩ := bind_eq_ok.1 hread
      cases found with
      | some t =>
          obtain ⟨⟨value, u⟩, hvalue, hread⟩ := bind_eq_ok.1 hread
          obtain ⟨⟨more, after⟩, hmore, hread⟩ := bind_eq_ok.1 hread
          obtain ⟨-, rfl⟩ := Prod.mk.inj (Except.ok.inj hread)
          exact Or.inr ⟨t, hnext,
            passesElements_of_passes (hskim.1 _ _ _ hvalue) (ih hskim.2 hmore).endsElements⟩
      | none =>
          obtain ⟨t, hend⟩ := nextElement_none hnext
          dsimp only at hread
          split at hread
          · cases hread
          · obtain ⟨⟨more, after⟩, hmore, hread⟩ := bind_eq_ok.1 hread
            obtain ⟨-, rfl⟩ := Prod.mk.inj (Except.ok.inj hread)
            rcases ih hskim.2 hmore with hrest | ⟨u, hother, -⟩
            · exact Or.inl hrest
            · -- The list has been seen to close here.
              have hnone : Decoder.nextElement (index + 1 == 0) s = .ok none := by
                simp [Decoder.nextElement, hend]
              rw [hnone] at hother
              cases hother

theorem skipBlank_of_closePositional {s rest : List Char}
    (hclose : closePositional s = .ok rest) : skipBlank s = ']' :: rest := by
  unfold closePositional at hclose
  grind

theorem closeObject_of_skipBlank {s rest : List Char} (hclose : skipBlank s = '\x7d' :: rest) :
    Decoder.closeObject s = rest := by
  simp [Decoder.closeObject, hclose]

theorem Fields.Skim.record {fields : Fields types} (hskim : fields.Skim) (name : String) :
    Skims (Decoder.record name fields) := by
  intro s values rest hread
  unfold Decoder.record at hread
  split at hread
  · next t hs =>
    split at hread
    · cases hread
    · next found left hpositional =>
      obtain ⟨after, hclose, hread⟩ := bind_eq_ok.1 hread
      obtain ⟨-, rfl⟩ := Prod.mk.inj (Except.ok.inj hread)
      exact (hskim.positional hpositional (skipBlank_of_closePositional hclose)).passes hs
  · next t hs =>
    split at hread
    · cases hread
    · next found left hkeyed =>
      obtain ⟨-, rfl⟩ := Prod.mk.inj (Except.ok.inj hread)
      obtain ⟨⟨draft, after⟩, hmembers, hkeyed⟩ := bind_eq_ok.1 hkeyed
      obtain ⟨rest, hclose, hrest⟩ := hskim.membersIn hmembers
      obtain rfl : after = left := by
        dsimp only at hkeyed
        split at hkeyed
        · exact (Prod.mk.inj (Except.ok.inj hkeyed)).2
        · cases hkeyed
      rw [closeObject_of_skipBlank hclose]
      exact hrest.passes hs
  · cases hread

end Records

end OpeningTimes.Json

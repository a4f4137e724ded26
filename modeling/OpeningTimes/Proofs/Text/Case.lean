import OpeningTimes.Text.Case

/-!
Case tables read backwards.  A text of two letters without marks is the capitalized form of few
texts: each of them has two characters, whose small and capital forms are found by looking the
letters up among the images of the tables.
-/

namespace OpeningTimes.Text

/-- The code points that the runs may turn into the given one, which is among them itself. -/
def preimages (runs : List CaseRun) (image : Nat) : List Nat :=
  image :: runs.filterMap (fun run =>
    if run.image ≤ image ∧ image ≤ run.image + (run.last - run.first) then
      some (run.first + (image - run.image))
    else none)

theorem mem_preimages (runs : List CaseRun) (code : Nat) :
    code ∈ preimages runs (mapRuns runs code) := by
  rw [mapRuns, preimages]
  cases hfound : runs.findSome? (fun run => run.map? code) with
  | none => exact List.mem_cons_self
  | some image =>
      obtain ⟨run, hrun, himage⟩ := List.exists_of_findSome?_eq_some hfound
      rw [CaseRun.map?] at himage
      split at himage
      · next hinside =>
          have hequal := Option.some.inj himage
          apply List.mem_cons_of_mem
          rw [List.mem_filterMap]
          refine ⟨run, hrun, ?_⟩
          rw [Option.getD_some, if_pos (by omega)]
          congr 1
          omega
      · cases himage

/-- Only numbers that are no characters turn into the first character. -/
theorem toNat_of_ofNat {code : Nat} {c : Char} (h : Char.ofNat code = c) (hc : c ≠ '\x00') :
    code = c.toNat := by
  subst h
  by_cases hvalid : code.isValidChar
  · rw [Char.ofNat, dif_pos hvalid]
    rfl
  · rw [Char.ofNat, dif_neg hvalid] at hc
    exact absurd rfl hc

theorem smallForm_cases (c : Char) :
    smallForm c = ['i', '\u0307'] ∨ smallForm c = [Char.ofNat (mapRuns smallRuns c.toNat)] := by
  rw [smallForm]
  split
  · exact Or.inl rfl
  · exact Or.inr rfl

theorem mem_preimages_of_smallForm {c small : Char} (hsmall : small ≠ '\x00')
    (h : smallForm c = [small]) : c.toNat ∈ preimages smallRuns small.toNat := by
  rcases smallForm_cases c with hdotted | hplain
  · rw [hdotted] at h
    cases h
  · rw [hplain] at h
    have hcode := toNat_of_ofNat (List.cons.inj h).1 hsmall
    rw [← hcode]
    exact mem_preimages smallRuns c.toNat

/-- What a character adds to a text in small letters: its small form, or the sigma that ends
words. -/
theorem lowerFrom_cons_cases (before : List Char) (c : Char) (rest : List Char) :
    lowerFrom before (c :: rest) = smallForm c ++ lowerFrom (c :: before) rest
      ∨ lowerFrom before (c :: rest) = 'ς' :: lowerFrom (c :: before) rest := by
  rw [lowerFrom]
  by_cases hsigma : c = 'Σ'
  · subst hsigma
    by_cases hends : endsWord before rest = true
    · right
      simp [hends]
    · left
      have hsmall : smallForm 'Σ' = ['σ'] := by decide
      simp [hends, hsmall]
  · left
    simp [hsigma]

theorem lowerFrom_cons_of_ne {c : Char} (hc : c ≠ 'Σ') (before rest : List Char) :
    lowerFrom before (c :: rest) = smallForm c ++ lowerFrom (c :: before) rest := by
  rw [lowerFrom]
  simp [hc]

theorem lowerFrom_pair {a b : Char} (ha : a ≠ 'Σ') (hb : b ≠ 'Σ') :
    lowerFrom [] [a, b] = smallForm a ++ smallForm b := by
  rw [lowerFrom_cons_of_ne ha, lowerFrom_cons_of_ne hb, lowerFrom, List.append_nil]

theorem lowerCase_pair {a b c d : Char} (ha : a ≠ 'Σ') (hb : b ≠ 'Σ')
    (hc : smallForm a = [c]) (hd : smallForm b = [d]) :
    lowerCase (String.ofList [a, b]) = String.ofList [c, d] := by
  rw [lowerCase, String.toList_ofList, lowerFrom_pair ha hb, hc, hd]
  rfl

theorem capitalize_pair {a b c d capital : Char} (ha : a ≠ 'Σ') (hb : b ≠ 'Σ')
    (hc : smallForm a = [c]) (hd : smallForm b = [d]) (hcapital : capitalForm c = [capital]) :
    capitalize (String.ofList [a, b]) = String.ofList [capital, d] := by
  rw [capitalize, String.toList_ofList, lowerFrom_pair ha hb, hc, hd]
  change String.ofList (capitalForm c ++ [d]) = _
  rw [hcapital]
  rfl

theorem lowerFrom_eq_nil {before cs : List Char} (h : lowerFrom before cs = []) : cs = [] := by
  cases cs with
  | nil => rfl
  | cons c rest =>
      rcases lowerFrom_cons_cases before c rest with hsmall | hsigma
      · rw [hsmall] at h
        rcases smallForm_cases c with hform | hform <;> simp [hform] at h
      · simp [hsigma] at h

/-- The first character that is made small is read off the first small one, since a dot above
follows where a character has two. -/
theorem lowerFrom_eq_cons {before cs small : List Char} {d : Char}
    (hdot : '\u0307' ∉ small.head?) (h : lowerFrom before cs = d :: small) :
    ∃ c rest, cs = c :: rest ∧ (smallForm c = [d] ∨ d = 'ς')
      ∧ lowerFrom (c :: before) rest = small := by
  cases cs with
  | nil => simp [lowerFrom] at h
  | cons c rest =>
      refine ⟨c, rest, rfl, ?_⟩
      rcases lowerFrom_cons_cases before c rest with hsmall | hsigma
      · rw [hsmall] at h
        rcases smallForm_cases c with hdotted | hplain
        · rw [hdotted] at h
          have hrest := (List.cons.inj h).2
          rw [← hrest] at hdot
          exact absurd rfl hdot
        · rw [hplain] at h ⊢
          obtain ⟨hd, hrest⟩ := List.cons.inj h
          exact ⟨Or.inl (by rw [hd]), hrest⟩
      · rw [hsigma] at h
        obtain ⟨hd, hrest⟩ := List.cons.inj h
        exact ⟨Or.inr hd.symm, hrest⟩

theorem lowerFrom_eq_pair {cs : List Char} {c d : Char} (hdot : d ≠ '\u0307')
    (h : lowerFrom [] cs = [c, d]) :
    ∃ a b, cs = [a, b] ∧ (smallForm a = [c] ∨ c = 'ς') ∧ (smallForm b = [d] ∨ d = 'ς') := by
  obtain ⟨a, rest, rfl, ha, hrest⟩ := lowerFrom_eq_cons (by simpa using hdot) h
  obtain ⟨b, last, rfl, hb, hlast⟩ := lowerFrom_eq_cons (by simp) hrest
  rw [lowerFrom_eq_nil hlast]
  exact ⟨a, b, rfl, ha, hb⟩

/-- No capital form of several characters goes on with one of the letters from a to z. -/
theorem capitalForm_cases (c : Char) :
    (∃ first second rest, capitalForm c = first :: second :: rest ∧ second.isLower = false)
      ∨ capitalForm c = [Char.ofNat (mapRuns capitalRuns c.toNat)] := by
  have hexpansions : ∀ expansion ∈ capitalExpansions,
      ((expansion.2.map Char.ofNat)[1]?).any (fun second => !second.isLower) = true := by
    decide
  rw [capitalForm]
  cases hlookup : capitalExpansions.lookup c.toNat with
  | none => exact Or.inr rfl
  | some codes =>
      left
      obtain ⟨before, after, hsplit, -⟩ := List.lookup_eq_some_iff.1 hlookup
      have hsecond := hexpansions (c.toNat, codes) (by rw [hsplit]; simp)
      change ∃ first second rest, codes.map Char.ofNat = first :: second :: rest ∧ _
      cases hform : codes.map Char.ofNat with
      | nil => simp [hform] at hsecond
      | cons first tail =>
          cases tail with
          | nil => simp [hform] at hsecond
          | cons second rest => exact ⟨first, second, rest, rfl, by simpa [hform] using hsecond⟩

theorem capitalForm_append_eq_pair {c capital small : Char} {rest : List Char}
    (hsmall : small.isLower = true) (h : capitalForm c ++ rest = [capital, small]) :
    capitalForm c = [capital] ∧ rest = [small] := by
  rcases capitalForm_cases c with ⟨first, second, more, hform, hsecond⟩ | hform
  · rw [hform, List.cons_append, List.cons_append] at h
    obtain ⟨hequal, -⟩ := List.cons.inj (List.cons.inj h).2
    rw [hequal, hsmall] at hsecond
    exact absurd hsecond (by decide)
  · rw [hform] at h ⊢
    obtain ⟨hcapital, hrest⟩ := List.cons.inj h
    exact ⟨by rw [hcapital], hrest⟩

theorem mem_preimages_of_capitalForm {c capital : Char} (hcapital : capital ≠ '\x00')
    (h : capitalForm c = [capital]) : c.toNat ∈ preimages capitalRuns capital.toNat := by
  rcases capitalForm_cases c with ⟨first, second, rest, hform, -⟩ | hform
  · rw [hform] at h
    cases h
  · rw [hform] at h
    have hcode := toNat_of_ofNat (List.cons.inj h).1 hcapital
    rw [← hcode]
    exact mem_preimages capitalRuns c.toNat

theorem ne_of_capitalForm {c d capital image : Char} (h : capitalForm c = [capital])
    (hd : capitalForm d = [image]) (hne : capital ≠ image) : c ≠ d := by
  rintro rfl
  rw [hd] at h
  exact hne (List.cons.inj h).1.symm

theorem lowerFrom_of_capitalize_eq_pair {s : String} {capital small : Char}
    (hsmall : small.isLower = true) (h : capitalize s = String.ofList [capital, small]) :
    ∃ c, lowerFrom [] s.toList = [c, small] ∧ capitalForm c = [capital] := by
  rw [capitalize] at h
  cases hlower : lowerFrom [] s.toList with
  | nil =>
      rw [hlower] at h
      have hlist := congrArg String.toList h
      simp at hlist
  | cons c rest =>
      rw [hlower] at h
      have hlist := congrArg String.toList h
      rw [String.toList_ofList, String.toList_ofList] at hlist
      obtain ⟨hform, rfl⟩ := capitalForm_append_eq_pair hsmall hlist
      exact ⟨c, rfl, hform⟩

/-- A text that two letters are the capitalized form of has two characters, and these are among
those that the tables lead from. -/
theorem exists_of_capitalize_eq_pair {s : String} {capital small : Char}
    (hcapital : capital.isUpper = true) (hsmall : small.isLower = true)
    (h : capitalize s = String.ofList [capital, small]) :
    ∃ a b, s = String.ofList [a, b]
      ∧ a.toNat ∈ (preimages capitalRuns capital.toNat).flatMap (preimages smallRuns)
      ∧ b.toNat ∈ preimages smallRuns small.toNat := by
  have hcapitalNe : ∀ c : Char, c.isUpper = false → capital ≠ c := by
    rintro c hc rfl
    rw [hc] at hcapital
    exact absurd hcapital (by decide)
  have hsmallNe : ∀ c : Char, c.isLower = false → small ≠ c := by
    rintro c hc rfl
    rw [hc] at hsmall
    exact absurd hsmall (by decide)
  obtain ⟨c, hlower, hform⟩ := lowerFrom_of_capitalize_eq_pair hsmall h
  obtain ⟨a, b, hs, ha, hb⟩ := lowerFrom_eq_pair (hsmallNe _ (by decide)) hlower
  -- Neither the null character nor the sigma at the end of words has a capital from A to Z.
  have hnull : c ≠ '\x00' :=
    ne_of_capitalForm hform (show capitalForm '\x00' = ['\x00'] by decide)
      (hcapitalNe _ (by decide))
  have hsigma : c ≠ 'ς' :=
    ne_of_capitalForm hform (show capitalForm 'ς' = ['Σ'] by decide) (hcapitalNe _ (by decide))
  refine ⟨a, b, ?_, ?_, ?_⟩
  · rw [← hs, String.ofList_toList]
  · rw [List.mem_flatMap]
    refine ⟨c.toNat, mem_preimages_of_capitalForm (hcapitalNe _ (by decide)) hform, ?_⟩
    exact mem_preimages_of_smallForm hnull (ha.resolve_right hsigma)
  · exact mem_preimages_of_smallForm (hsmallNe _ (by decide))
      (hb.resolve_right (hsmallNe _ (by decide)))

end OpeningTimes.Text

import OpeningTimes.Loading
import OpeningTimes.Proofs.Text.Case

/-!
Names of weekdays.  The texts that are read as weekdays are listed by their two letters, and no
other text is: neither a longer one nor one with letters of other alphabets, whatever its small
and capital forms are.
-/

namespace OpeningTimes

namespace Weekday

open Text

/-- The small letters of the abbreviations, English and German, with their days. -/
def spellings : List ((Char × Char) × Weekday) :=
  [(('m', 'o'), monday), (('t', 'u'), tuesday), (('w', 'e'), wednesday), (('t', 'h'), thursday),
   (('f', 'r'), friday), (('s', 'a'), saturday), (('s', 'u'), sunday), (('d', 'i'), tuesday),
   (('m', 'i'), wednesday), (('d', 'o'), thursday), (('s', 'o'), sunday)]

/-- The text consists of the two letters, each small or capital.  The long s counts as a first
letter s. -/
def Spells (letters : Char × Char) (s : String) : Prop :=
  ∃ first second, s = String.ofList [first, second]
    ∧ (first = letters.1 ∨ first = letters.1.toUpper ∨ letters.1 = 's' ∧ first = 'ſ')
    ∧ (second = letters.2 ∨ second = letters.2.toUpper)

/-- The two letters as the capitalized text has them. -/
def capitalized (letters : Char × Char) : String :=
  String.ofList [letters.1.toUpper, letters.2]

/-- The text is a spelling of the day. -/
def Names (s : String) (day : Weekday) : Prop :=
  ∃ letters, (letters, day) ∈ spellings ∧ Spells letters s

/-- The German name of a day is looked up for the text, and it is not among the six that are
listed. -/
def PassesGerman (s : String) : Prop :=
  all.find? (fun day => day.abbreviation == capitalize s) = none
    ∧ germanOnly.contains (capitalize s) = true
    ∧ german.lookup (lowerCase s) = none

section Spellings

variable {letters : Char × Char} {day : Weekday} {s : String}

theorem first_cases (hmem : (letters, day) ∈ spellings) {first : Char}
    (hfirst : first = letters.1 ∨ first = letters.1.toUpper ∨ letters.1 = 's' ∧ first = 'ſ') :
    first ≠ 'Σ' ∧ ∃ c, smallForm first = [c] ∧ capitalForm c = [letters.1.toUpper]
      ∧ (c = letters.1 ∨ letters.1 = 's' ∧ c = 'ſ') := by
  have htable : ∀ entry ∈ spellings, entry.1.1 ≠ 'Σ' ∧ entry.1.1.toUpper ≠ 'Σ'
      ∧ smallForm entry.1.1 = [entry.1.1] ∧ smallForm entry.1.1.toUpper = [entry.1.1]
      ∧ capitalForm entry.1.1 = [entry.1.1.toUpper] := by
    decide
  obtain ⟨hsmallNe, hcapitalNe, hsmall, hcapital, hform⟩ := htable _ hmem
  rcases hfirst with rfl | rfl | ⟨hs, rfl⟩
  · exact ⟨hsmallNe, letters.1, hsmall, hform, Or.inl rfl⟩
  · exact ⟨hcapitalNe, letters.1, hcapital, hform, Or.inl rfl⟩
  · rw [hs]
    exact ⟨by decide, 'ſ', by decide, by decide, Or.inr ⟨rfl, rfl⟩⟩

theorem second_cases (hmem : (letters, day) ∈ spellings) {second : Char}
    (hsecond : second = letters.2 ∨ second = letters.2.toUpper) :
    second ≠ 'Σ' ∧ smallForm second = [letters.2] := by
  have htable : ∀ entry ∈ spellings, entry.1.2 ≠ 'Σ' ∧ entry.1.2.toUpper ≠ 'Σ'
      ∧ smallForm entry.1.2 = [entry.1.2] ∧ smallForm entry.1.2.toUpper = [entry.1.2] := by
    decide
  obtain ⟨hsmallNe, hcapitalNe, hsmall, hcapital⟩ := htable _ hmem
  rcases hsecond with rfl | rfl
  · exact ⟨hsmallNe, hsmall⟩
  · exact ⟨hcapitalNe, hcapital⟩

/-- Capitalizing leads to a spelling from all its variants and from nothing else. -/
theorem capitalize_eq_iff_spells (hmem : (letters, day) ∈ spellings) :
    capitalize s = capitalized letters ↔ Spells letters s := by
  rw [capitalized]
  constructor
  · intro h
    have htable : ∀ entry ∈ spellings,
        entry.1.1.toUpper.isUpper = true ∧ entry.1.2.isLower = true
          ∧ (∀ code ∈ (preimages capitalRuns entry.1.1.toUpper.toNat).flatMap
                (preimages smallRuns),
              code = entry.1.1.toNat ∨ code = entry.1.1.toUpper.toNat
                ∨ entry.1.1 = 's' ∧ code = 'ſ'.toNat)
          ∧ ∀ code ∈ preimages smallRuns entry.1.2.toNat,
              code = entry.1.2.toNat ∨ code = entry.1.2.toUpper.toNat := by
      decide
    obtain ⟨hcapital, hsmall, hfirst, hsecond⟩ := htable _ hmem
    obtain ⟨a, b, hs, ha, hb⟩ := exists_of_capitalize_eq_pair hcapital hsmall h
    have hfirst := hfirst a.toNat ha
    have hsecond := hsecond b.toNat hb
    simp only [Char.toNat_inj] at hfirst hsecond
    exact ⟨a, b, hs, hfirst, hsecond⟩
  · rintro ⟨first, second, rfl, hfirst, hsecond⟩
    obtain ⟨hfirstNe, c, hc, hcapital, -⟩ := first_cases hmem hfirst
    obtain ⟨hsecondNe, hd⟩ := second_cases hmem hsecond
    exact capitalize_pair hfirstNe hsecondNe hc hd hcapital

theorem lowerCase_of_spells (hmem : (letters, day) ∈ spellings) (h : Spells letters s) :
    lowerCase s = String.ofList [letters.1, letters.2]
      ∨ letters.1 = 's' ∧ lowerCase s = String.ofList ['ſ', letters.2] := by
  obtain ⟨first, second, rfl, hfirst, hsecond⟩ := h
  obtain ⟨hfirstNe, c, hc, -, hread⟩ := first_cases hmem hfirst
  obtain ⟨hsecondNe, hd⟩ := second_cases hmem hsecond
  have hlower := lowerCase_pair hfirstNe hsecondNe hc hd
  rcases hread with rfl | ⟨hs, rfl⟩
  · exact Or.inl hlower
  · exact Or.inr ⟨hs, hlower⟩

/-- Every spelling is read as its day, also where the catch-all for Sunday answers. -/
theorem ofAbbreviation?_of_spells (hmem : (letters, day) ∈ spellings) (h : Spells letters s) :
    ofAbbreviation? s = some day := by
  have htable : ∀ entry ∈ spellings,
      all.find? (fun day => day.abbreviation == capitalized entry.1) = some entry.2
        ∨ all.find? (fun day => day.abbreviation == capitalized entry.1) = none
          ∧ germanOnly.contains (capitalized entry.1) = true
          ∧ (german.lookup (String.ofList [entry.1.1, entry.1.2])).getD sunday = entry.2
          ∧ (entry.1.1 = 's' →
              (german.lookup (String.ofList ['ſ', entry.1.2])).getD sunday = entry.2) := by
    decide
  rw [ofAbbreviation?, (capitalize_eq_iff_spells hmem).2 h]
  rcases htable _ hmem with henglish | ⟨hnone, hgerman, hplain, hlong⟩
  · rw [henglish]
  · rw [hnone]
    change (if germanOnly.contains (capitalized letters) = true then some (ofGerman s)
      else none) = some day
    rw [if_pos hgerman, ofGerman]
    congr 1
    rcases lowerCase_of_spells hmem h with hlower | ⟨hs, hlower⟩
    · rw [hlower]
      exact hplain
    · rw [hlower]
      exact hlong hs

theorem exists_spells_of_german (h : germanOnly.contains (capitalize s) = true) :
    ∃ letters day, (letters, day) ∈ spellings ∧ Spells letters s
      ∧ germanOnly.contains (capitalized letters) = true := by
  have htable : ∀ word ∈ germanOnly, ∃ entry ∈ spellings, word = capitalized entry.1 := by
    decide
  obtain ⟨⟨letters, day⟩, hmem, hword⟩ := htable _ (List.contains_iff_mem.1 h)
  refine ⟨letters, day, hmem, (capitalize_eq_iff_spells hmem).1 hword, ?_⟩
  rw [← hword]
  exact h

/-- Whatever is read as a weekday is one of the spellings. -/
theorem exists_spells_of_ofAbbreviation? (h : ofAbbreviation? s = some day) :
    ∃ letters day', (letters, day') ∈ spellings ∧ Spells letters s := by
  have htable : ∀ day ∈ all, ∃ entry ∈ spellings, day.abbreviation = capitalized entry.1 := by
    decide
  simp only [ofAbbreviation?] at h
  cases hfound : all.find? (fun day => day.abbreviation == capitalize s) with
  | some english =>
      obtain ⟨⟨letters, day'⟩, hmem, hword⟩ := htable english (mem_all english)
      have hwritten := List.find?_some hfound
      refine ⟨letters, day', hmem, (capitalize_eq_iff_spells hmem).1 ?_⟩
      rw [← hword, beq_iff_eq.1 hwritten]
  | none =>
      simp only [hfound] at h
      split at h
      · next hgerman =>
          obtain ⟨letters, day', hmem, hspells, -⟩ := exists_spells_of_german hgerman
          exact ⟨letters, day', hmem, hspells⟩
      · cases h

theorem ofAbbreviation?_eq_some_iff : ofAbbreviation? s = some day ↔ Names s day := by
  constructor
  · intro h
    obtain ⟨letters, day', hmem, hspells⟩ := exists_spells_of_ofAbbreviation? h
    rw [ofAbbreviation?_of_spells hmem hspells] at h
    rw [← Option.some.inj h]
    exact ⟨letters, hmem, hspells⟩
  · rintro ⟨letters, hmem, hspells⟩
    exact ofAbbreviation?_of_spells hmem hspells

example : ["ſA", "mi", "Mit"].map ofAbbreviation? = [some saturday, some wednesday, none] := by
  decide

/-- The catch-all for Sunday is reached from spellings of So alone. -/
theorem passesGerman_iff_spells : PassesGerman s ↔ Spells ('s', 'o') s := by
  constructor
  · rintro ⟨-, hgerman, hlookup⟩
    have htable : ∀ entry ∈ spellings, germanOnly.contains (capitalized entry.1) = true →
        entry.1 = ('s', 'o') ∨ entry.1.1 ≠ 's'
          ∧ german.lookup (String.ofList [entry.1.1, entry.1.2]) ≠ none := by
      decide
    obtain ⟨letters, day, hmem, hspells, hword⟩ := exists_spells_of_german hgerman
    rcases htable _ hmem hword with hso | ⟨hne, hlisted⟩
    · rw [← hso]
      exact hspells
    · rcases lowerCase_of_spells hmem hspells with hlower | ⟨hs, -⟩
      · rw [hlower] at hlookup
        exact absurd hlookup hlisted
      · exact absurd hs hne
  · intro h
    have hmem : (('s', 'o'), sunday) ∈ spellings := by decide
    rw [PassesGerman, (capitalize_eq_iff_spells hmem).2 h]
    refine ⟨by decide, by decide, ?_⟩
    rcases lowerCase_of_spells hmem h with hlower | ⟨-, hlower⟩
    · rw [hlower]
      decide
    · rw [hlower]
      decide

end Spellings

end Weekday

/-- The texts that are read as weekdays are the spellings of weekdays, each as its own day.  Every
other text is refused and reported as it is.  The rule that all else is Sunday never answers for
a text that does not spell So. -/
theorem weekdayAbbreviated_determined (s : String) :
    (∀ day, weekdayAbbreviated s = .ok day ↔ Weekday.Names s day)
      ∧ (weekdayAbbreviated s = .error (.invalidWeekday s) ↔ ∀ day, ¬ Weekday.Names s day)
      ∧ (Weekday.PassesGerman s ↔ Weekday.Spells ('s', 'o') s) := by
  refine ⟨?_, ?_, Weekday.passesGerman_iff_spells⟩
  · intro day
    rw [← Weekday.ofAbbreviation?_eq_some_iff, weekdayAbbreviated]
    cases Weekday.ofAbbreviation? s <;> simp
  · simp only [← Weekday.ofAbbreviation?_eq_some_iff, weekdayAbbreviated]
    cases Weekday.ofAbbreviation? s <;> simp

end OpeningTimes

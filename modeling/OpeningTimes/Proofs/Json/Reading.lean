import OpeningTimes.Json.Record

/-!
Texts that decoders read.  A decoder reads a text as a value when it does so whatever stands
around the text: blanks before it, and after it anything that can follow a value.
-/

namespace OpeningTimes.Json

def AllBlank (s : List Char) : Prop :=
  ∀ c ∈ s, isBlank c = true

/-- What can follow a value: nothing, a blank, a comma, or the end of a list or an object. -/
def Ends (s : List Char) : Prop :=
  ∀ c ∈ s.head?, isBlank c = true ∨ c ∈ [',', ']', '\x7d']

/-- A text that starts with a token that neither separates nor closes. -/
def Opens (text : List Char) : Prop :=
  ∃ c tail, text = c :: tail ∧ isBlank c = false ∧ c ≠ ']'

/-- The decoder reads the text as the value and leaves alone what comes after it. -/
structure Reads {α : Type} (read : Decoder α) (text : List Char) (value : α) : Prop where
  opens : Opens text
  reads : ∀ blanks rest, AllBlank blanks → Ends rest →
    read (blanks ++ (text ++ rest)) = .ok (value, rest)

theorem allBlank_nil : AllBlank [] := by
  simp [AllBlank]

theorem allBlank_space : AllBlank [' '] := by
  simp [AllBlank, isBlank]

theorem AllBlank.append {blanks more : List Char} (hblanks : AllBlank blanks)
    (hmore : AllBlank more) : AllBlank (blanks ++ more) := by
  intro c hc
  rcases List.mem_append.1 hc with hfirst | hsecond
  · exact hblanks c hfirst
  · exact hmore c hsecond

theorem skipBlank_append {blanks : List Char} (hblank : AllBlank blanks) (s : List Char) :
    skipBlank (blanks ++ s) = skipBlank s :=
  List.dropWhile_append_of_pos hblank

/-- Blanks are skipped up to the next token. -/
theorem skipBlank_append_token {blanks : List Char} {c : Char} (hblank : AllBlank blanks)
    (htoken : isBlank c = false) (s : List Char) : skipBlank (blanks ++ c :: s) = c :: s := by
  rw [skipBlank_append hblank, skipBlank_token htoken]

theorem Opens.skipBlank_append {text : List Char} (hopens : Opens text) (rest : List Char) :
    skipBlank (text ++ rest) = text ++ rest := by
  obtain ⟨c, tail, rfl, htoken, -⟩ := hopens
  exact skipBlank_token htoken (tail ++ rest)

theorem ends_nil : Ends [] := by
  simp [Ends]

theorem ends_cons {c : Char} (hc : c ∈ [',', ']', '\x7d']) (s : List Char) : Ends (c :: s) := by
  intro d hd
  obtain rfl : c = d := by simpa using hd
  exact Or.inr hc

/-- Blanks in front of what can follow a value can follow it, too. -/
theorem ends_append {blanks s : List Char} (hblank : AllBlank blanks) (hends : Ends s) :
    Ends (blanks ++ s) := by
  cases blanks with
  | nil => exact hends
  | cons c tail =>
      intro d hd
      obtain rfl : c = d := by simpa using hd
      exact Or.inl (hblank c List.mem_cons_self)

/-- A number ends where a value ends. -/
theorem Ends.not_numeric {c : Char} {s : List Char} (hends : Ends (c :: s)) :
    isDigit c = false ∧ c ≠ '.' ∧ c ≠ 'e' ∧ c ≠ 'E' := by
  have hcases : c = ' ' ∨ c = '\n' ∨ c = '\t' ∨ c = '\r' ∨ c = ',' ∨ c = ']' ∨ c = '\x7d' := by
    simpa [isBlank, or_assoc] using hends c rfl
  rcases hcases with rfl | rfl | rfl | rfl | rfl | rfl | rfl <;> decide

/-- A decoder that looks at the first token after blanks reads what it reads from there. -/
theorem Reads.of_skipBlank {α : Type} {read : Decoder α} {text : List Char} {value : α}
    (hopens : Opens text) (hskips : ∀ s, read s = read (skipBlank s))
    (hreads : ∀ rest, Ends rest → read (text ++ rest) = .ok (value, rest)) :
    Reads read text value where
  opens := hopens
  reads := by
    intro blanks rest hblank hends
    rw [hskips, skipBlank_append hblank, hopens.skipBlank_append, hreads rest hends]

theorem Reads.map {α β : Type} {read : Decoder α} {text : List Char} {value : α}
    (hreads : Reads read text value) (f : α → β) : Reads (Decoder.map f read) text (f value) where
  opens := hreads.opens
  reads := by
    intro blanks rest hblank hends
    rw [Decoder.map, hreads.reads blanks rest hblank hends]

theorem reads_boolean (value : Bool) :
    Reads Decoder.boolean (if value then "true" else "false").toList value := by
  refine Reads.of_skipBlank ?_ ?_ ?_
  · cases value
    · exact ⟨'f', ['a', 'l', 's', 'e'], by simp, by decide, by decide⟩
    · exact ⟨'t', ['r', 'u', 'e'], by simp, by decide, by decide⟩
  · intro s
    rw [Decoder.boolean, Decoder.boolean, skipBlank_skipBlank]
  · intro rest _
    cases value
    · rfl
    · rfl

end OpeningTimes.Json

import OpeningTimes.Proofs.Json.Layout

/-!
Lists.  A list is read from any layout of texts that its elements are read from.
-/

namespace OpeningTimes.Json

theorem nextElement_first {s tail : List Char} {c : Char} (hs : skipBlank s = c :: tail)
    (hopen : c ≠ ']') : Decoder.nextElement true s = .ok (some (skipBlank s)) := by
  simp [Decoder.nextElement, hs, hopen]

theorem nextElement_comma {blanks s tail : List Char} {c : Char} (hblanks : AllBlank blanks)
    (hs : skipBlank s = c :: tail) (hopen : c ≠ ']') :
    Decoder.nextElement false (blanks ++ ',' :: s) = .ok (some (skipBlank s)) := by
  have hcomma := skipBlank_append_token hblanks (show isBlank ',' = false by decide) s
  simp [Decoder.nextElement, hcomma, hs, hopen]

theorem nextElement_close (first : Bool) {blanks : List Char} (hblanks : AllBlank blanks)
    (rest : List Char) : Decoder.nextElement first (blanks ++ ']' :: rest) = .ok none := by
  have hclose := skipBlank_append_token hblanks (show isBlank ']' = false by decide) rest
  simp [Decoder.nextElement, hclose]

section Lists

variable {α : Type} {read : Decoder α}

theorem elementsIn_close {first : Bool} {s : List Char}
    (hclose : Decoder.nextElement first s = .ok none) (rounds : Nat) :
    Decoder.elementsIn read (rounds + 1) first s = .ok ([], s) := by
  simp [Decoder.elementsIn, hclose, bind, Except.bind]

theorem elementsIn_next {first : Bool} {s t u : List Char} {value : α}
    (hnext : Decoder.nextElement first s = .ok (some t)) (hread : read t = .ok (value, u))
    (rounds : Nat) :
    Decoder.elementsIn read (rounds + 1) first s =
      (Decoder.elementsIn read rounds false u).bind
        (fun (values, s) => .ok (value :: values, s)) := by
  simp [Decoder.elementsIn, hnext, hread, bind, Except.bind]

/-- Reading the elements from the first one on, however it was found. -/
theorem elementsIn_separated {values : List α} {text : List Char}
    (hvalues : Separated (fun value text => Reads read text value) values text)
    (hne : values ≠ []) (rest : List Char) {rounds : Nat} (hrounds : values.length < rounds)
    {first : Bool} {s : List Char}
    (hnext : Decoder.nextElement first s = .ok (some (skipBlank (text ++ ']' :: rest)))) :
    ∃ blanks, AllBlank blanks ∧
      Decoder.elementsIn read rounds first s = .ok (values, blanks ++ ']' :: rest) := by
  induction hvalues generalizing rounds first s with
  | nil hblanks => exact absurd rfl hne
  | @last value before text after hbefore htext hafter =>
      obtain ⟨more, rfl⟩ : ∃ more, rounds = more + 1 + 1 :=
        ⟨rounds - 2, by simp at hrounds; omega⟩
      have hread := htext.reads [] (after ++ ']' :: rest) allBlank_nil
        (ends_append hafter (ends_cons (by simp) rest))
      rw [List.append_assoc, List.append_assoc, skipBlank_append hbefore,
        htext.opens.skipBlank_append] at hnext
      refine ⟨after, hafter, ?_⟩
      rw [elementsIn_next hnext hread, elementsIn_close (nextElement_close false hafter rest)]
      rfl
  | @more value next values before text after texts hbefore htext hafter hvalues ih =>
      obtain ⟨more, rfl⟩ : ∃ more, rounds = more + 1 :=
        ⟨rounds - 1, by simp at hrounds; omega⟩
      have hread := htext.reads [] (after ++ ',' :: (texts ++ ']' :: rest)) allBlank_nil
        (ends_append hafter (ends_cons (by simp) _))
      rw [List.append_assoc, List.append_assoc, List.append_assoc, List.cons_append,
        skipBlank_append hbefore, htext.opens.skipBlank_append] at hnext
      obtain ⟨c, tail, hskip, hopen⟩ :=
        hvalues.skipBlank_append (fun _ hreads => hreads.opens) (']' :: rest)
      obtain ⟨blanks, hblanks, hvalues⟩ := ih (List.cons_ne_nil next values)
        (Nat.lt_of_succ_lt_succ hrounds) (nextElement_comma hafter hskip hopen)
      refine ⟨blanks, hblanks, ?_⟩
      rw [elementsIn_next hnext hread, hvalues]
      rfl

theorem closeList_append {blanks : List Char} (hblanks : AllBlank blanks) (rest : List Char) :
    Decoder.closeList (blanks ++ ']' :: rest) = rest := by
  have hclose := skipBlank_append_token hblanks (show isBlank ']' = false by decide) rest
  simp [Decoder.closeList, hclose]

/-- Lists are read whatever blanks stand around their elements and commas. -/
theorem reads_list {values : List α} {text : List Char}
    (hvalues : Separated (fun value text => Reads read text value) values text) :
    Reads (Decoder.list read) ('[' :: (text ++ [']'])) values := by
  have hopens : Opens ('[' :: (text ++ [']'])) := ⟨'[', _, rfl, by decide, by decide⟩
  refine Reads.of_skipBlank hopens ?_ ?_
  · intro s
    rw [Decoder.list, Decoder.list, skipBlank_skipBlank]
  · intro rest _
    have helements : ∃ blanks, AllBlank blanks ∧
        Decoder.elementsIn read ((text ++ ']' :: rest).length + 1) true (text ++ ']' :: rest) =
          .ok (values, blanks ++ ']' :: rest) := by
      cases values with
      | nil =>
          cases hvalues with
          | nil hblanks =>
              exact ⟨text, hblanks, elementsIn_close (nextElement_close true hblanks rest) _⟩
      | cons value values =>
          obtain ⟨c, tail, hskip, hopen⟩ :=
            hvalues.skipBlank_append (fun _ hreads => hreads.opens) (']' :: rest)
          have hlength := hvalues.length_le
          refine elementsIn_separated hvalues (List.cons_ne_nil value values) rest ?_
            (nextElement_first hskip hopen)
          simp only [List.length_append, List.length_cons] at hlength ⊢
          omega
    obtain ⟨blanks, hblanks, helements⟩ := helements
    rw [Decoder.list, hopens.skipBlank_append, List.cons_append, List.append_assoc,
      List.singleton_append]
    simp only [helements, closeList_append hblanks]

end Lists

end OpeningTimes.Json

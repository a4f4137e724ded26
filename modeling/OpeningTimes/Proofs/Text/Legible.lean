import OpeningTimes.Proofs.Json.Integer
import OpeningTimes.Selector.Date

/-!
Legible texts.  The text of a value is legible when it can be told from the text of every other
value although more text follows, as long as what follows is known to stop the reading.
-/

namespace OpeningTimes.Text

/-- Equal texts come from equal values, and the same is left after them. -/
def Legible {α : Type} (write : α → String) (stop : List Char → Prop) : Prop :=
  ∀ a b s t, stop s → stop t → (write a).toList ++ s = (write b).toList ++ t → a = b ∧ s = t

/-- There is no text, or it starts with one of the characters. -/
def Begins (starts : List Char) (s : List Char) : Prop :=
  ∀ c ∈ s.head?, c ∈ starts

theorem begins_nil (starts : List Char) : Begins starts [] := by
  simp [Begins]

theorem begins_cons {starts : List Char} {c : Char} (hc : c ∈ starts) (s : List Char) :
    Begins starts (c :: s) := by
  simpa [Begins] using hc

theorem Begins.mono {starts more : List Char} {s : List Char} (hs : Begins starts s)
    (hsub : starts ⊆ more) : Begins more s :=
  fun c hc => hsub (hs c hc)

theorem Begins.eq_false {starts s : List Char} (hs : Begins starts s) {inside : Char → Bool}
    (houtside : starts.any inside = false) : ∀ c ∈ s.head?, inside c = false :=
  fun c hc => by simpa using List.any_eq_false.1 houtside c (hs c hc)

/-- An optional part adds the character that it starts with. -/
theorem Begins.optionalText {α : Type} {starts s : List Char} (hs : Begins starts s)
    (lead : String) (c : Char) (hlead : lead.toList = [c]) (write : α → String)
    (part : Option α) :
    Begins (c :: starts) ((optionalText part (fun a => lead ++ write a)).toList ++ s) := by
  cases part with
  | none => simpa [OpeningTimes.optionalText] using hs.mono (List.subset_cons_self c starts)
  | some a => simp [OpeningTimes.optionalText, hlead, begins_cons]

section Legible

variable {α β : Type} {write : α → String} {stop : List Char → Prop}

theorem Legible.mono (hlegible : Legible write stop) {stop' : List Char → Prop}
    (hstop : ∀ s, stop' s → stop s) : Legible write stop' :=
  fun a b s t hs ht h => hlegible a b s t (hstop s hs) (hstop t ht) h

theorem Legible.comp (hlegible : Legible write stop) {f : β → α} (hf : Function.Injective f) :
    Legible (fun b => write (f b)) stop := by
  intro a b s t hs ht h
  obtain ⟨hab, hst⟩ := hlegible (f a) (f b) s t hs ht h
  exact ⟨hf hab, hst⟩

theorem Legible.lead (hlegible : Legible write stop) (lead : String) :
    Legible (fun a => lead ++ write a) stop := by
  intro a b s t hs ht h
  simp only [String.toList_append, List.append_assoc] at h
  exact hlegible a b s t hs ht (List.append_cancel_left h)

theorem Legible.tail {between : List Char → Prop} (hlegible : Legible write between)
    (tail : String) (hbetween : ∀ s, stop s → between (tail.toList ++ s)) :
    Legible (fun a => write a ++ tail) stop := by
  intro a b s t hs ht h
  simp only [String.toList_append, List.append_assoc] at h
  obtain ⟨rfl, hrest⟩ := hlegible a b _ _ (hbetween s hs) (hbetween t ht) h
  exact ⟨rfl, List.append_cancel_left hrest⟩

/-- Texts of one length need nothing to stop them. -/
theorem legible_of_length {n : Nat} (hlength : ∀ a, (write a).toList.length = n)
    (hinjective : Function.Injective write) : Legible write stop := by
  intro a b s t _ _ h
  obtain ⟨htext, hst⟩ := List.append_inj h (by rw [hlength a, hlength b])
  exact ⟨hinjective (String.toList_inj.1 htext), hst⟩

/-- Texts of some characters are stopped by the others. -/
theorem legible_of_inside {inside : Char → Bool} {starts : List Char}
    (hinside : ∀ a, ∀ c ∈ (write a).toList, inside c = true)
    (hinjective : Function.Injective write) (houtside : starts.any inside = false) :
    Legible write (Begins starts) := by
  have htake : ∀ a s, Begins starts s →
      ((write a).toList ++ s).takeWhile inside = (write a).toList := by
    intro a s hs
    rw [List.takeWhile_append_of_pos (hinside a)]
    cases s with
    | nil => simp
    | cons c s => simp [hs.eq_false houtside c rfl]
  intro a b s t hs ht h
  have htext : (write a).toList = (write b).toList := by
    rw [← htake a s hs, ← htake b t ht, h]
  obtain rfl := hinjective (String.toList_inj.1 htext)
  exact ⟨rfl, List.append_cancel_left h⟩

/-- An optional part is legible when what follows is not taken for it. -/
theorem Legible.optionalText (hlegible : Legible write stop)
    (habsent : ∀ a s t, stop s → stop t → (write a).toList ++ s ≠ t) :
    Legible (fun part => optionalText part write) stop := by
  intro part other s t hs ht h
  cases part with
  | none =>
      cases other with
      | none => exact ⟨rfl, by simpa [OpeningTimes.optionalText] using h⟩
      | some b => exact absurd h.symm (habsent b t s ht hs)
  | some a =>
      cases other with
      | none => exact absurd h (habsent a s t hs ht)
      | some b =>
          obtain ⟨rfl, hst⟩ := hlegible a b s t hs ht h
          exact ⟨rfl, hst⟩

/-- A part with a lead of its own is not taken for what follows. -/
theorem Legible.optionalLead {starts : List Char} (hlegible : Legible write (Begins starts))
    (lead : String) (c : Char) (hlead : lead.toList = [c]) (hc : c ∉ starts) :
    Legible (fun part => OpeningTimes.optionalText part (fun a => lead ++ write a))
      (Begins starts) := by
  refine (hlegible.lead lead).optionalText ?_
  intro a s t _ ht h
  rw [String.toList_append, hlead] at h
  exact hc (ht c (by rw [← h]; rfl))

/-- A word that stands for a flag is legible when what follows is not taken for it. -/
theorem legible_flag {word : String}
    (habsent : ∀ s t, stop s → stop t → word.toList ++ s ≠ t) :
    Legible (fun flag : Bool => if flag then word else "") stop := by
  intro flag other s t hs ht h
  cases flag with
  | false =>
      cases other with
      | false => exact ⟨rfl, by simpa using h⟩
      | true => exact absurd (by simpa using h.symm) (habsent t s ht hs)
  | true =>
      cases other with
      | false => exact absurd (by simpa using h) (habsent s t hs ht)
      | true => exact ⟨rfl, List.append_cancel_left h⟩

/-- Two texts in a row, where the second may be written in view of the first. -/
theorem Legible.append {first : α → String} {second : α → β → String} {between : List Char → Prop}
    (hfirst : Legible first between) (hsecond : ∀ a, Legible (second a) stop)
    (hbetween : ∀ a b s, stop s → between ((second a b).toList ++ s)) :
    Legible (fun pair : α × β => first pair.1 ++ second pair.1 pair.2) stop := by
  rintro ⟨a, b⟩ ⟨a', b'⟩ s t hs ht h
  simp only [String.toList_append, List.append_assoc] at h
  obtain ⟨rfl, hrest⟩ := hfirst a a' _ _ (hbetween a b s hs) (hbetween a' b' t ht) h
  obtain ⟨rfl, hst⟩ := hsecond a b b' s t hs ht hrest
  exact ⟨rfl, hst⟩

end Legible

section Numbers

theorem toList_toString_nat (n : Nat) : (toString n).toList = Nat.toDigits 10 n :=
  Nat.toList_repr

theorem isDigit_of_mem_toString {n : Nat} {c : Char} (hc : c ∈ (toString n).toList) :
    c.isDigit = true := by
  rw [toList_toString_nat] at hc
  exact Nat.isDigit_of_mem_toDigits (by decide) (by decide) hc

theorem toString_nat_injective : Function.Injective (fun n : Nat => toString n) := by
  intro m n h
  have hdigits : Nat.toDigits 10 m = Nat.toDigits 10 n := by
    rw [← toList_toString_nat, ← toList_toString_nat]
    exact congrArg String.toList h
  rw [← Nat.ofDigitChars_ten_toDigits (n := m), hdigits, Nat.ofDigitChars_ten_toDigits]

theorem legible_toString {starts : List Char} (hstarts : starts.any Char.isDigit = false) :
    Legible (fun n : Nat => toString n) (Begins starts) :=
  legible_of_inside (fun _ _ hc => isDigit_of_mem_toString hc) toString_nat_injective hstarts

theorem isDigit_of_mem_twoDigits {n : Nat} {c : Char} (hc : c ∈ (twoDigits n).toList) :
    c.isDigit = true := by
  rw [twoDigits] at hc
  split at hc
  · rw [String.toList_append] at hc
    rcases List.mem_append.1 hc with hzero | hdigit
    · obtain rfl : c = '0' := by simpa using hzero
      decide
    · exact isDigit_of_mem_toString hdigit
  · exact isDigit_of_mem_toString hc

theorem toString_eq_cons (n : Nat) :
    ∃ c u, (toString n).toList = c :: u ∧ c.isDigit = true := by
  obtain ⟨c, u, hcons⟩ := List.exists_cons_of_ne_nil (Nat.toDigits_ne_nil (n := n) (b := 10))
  rw [← toList_toString_nat] at hcons
  exact ⟨c, u, hcons, isDigit_of_mem_toString (n := n) (by rw [hcons]; exact List.mem_cons_self)⟩

theorem twoDigits_eq_cons (n : Nat) :
    ∃ c u, (twoDigits n).toList = c :: u ∧ c.isDigit = true := by
  by_cases hn : n < 10
  · exact ⟨'0', (toString n).toList, by simp [twoDigits, hn], by decide⟩
  · rw [twoDigits, if_neg hn]
    exact toString_eq_cons n

theorem ofDigitChars_twoDigits (n : Nat) : Nat.ofDigitChars 10 (twoDigits n).toList 0 = n := by
  rw [twoDigits]
  split
  · rw [String.toList_append, toList_toString_nat]
    exact Nat.ofDigitChars_ten_toDigits
  · rw [toList_toString_nat]
    exact Nat.ofDigitChars_ten_toDigits

theorem twoDigits_injective : Function.Injective twoDigits := by
  intro m n h
  rw [← ofDigitChars_twoDigits m, h, ofDigitChars_twoDigits]

theorem legible_twoDigits {starts : List Char} (hstarts : starts.any Char.isDigit = false) :
    Legible twoDigits (Begins starts) :=
  legible_of_inside (fun _ _ hc => isDigit_of_mem_twoDigits hc) twoDigits_injective hstarts

/-- The characters of a number that may have a sign. -/
def isSigned (c : Char) : Bool :=
  c.isDigit || c == '-' || c == '+'

theorem isSigned_of_isDigit {c : Char} (hc : c.isDigit = true) : isSigned c = true := by
  simp [isSigned, hc]

theorem isSigned_of_mem_toString {value : Int} {c : Char} (hc : c ∈ (toString value).toList) :
    isSigned c = true := by
  rw [Json.toList_toString_int] at hc
  rcases List.mem_append.1 hc with hsign | hdigit
  · split at hsign
    · obtain rfl : c = '-' := by simpa using hsign
      decide
    · simp at hsign
  · exact isSigned_of_isDigit (Nat.isDigit_of_mem_toDigits (by decide) (by decide) hdigit)

/-- A sign and digits determine a number, whichever two signs are used. -/
theorem eq_of_signed_eq {minus plus : List Char} (hne : minus ≠ plus)
    (hminus : minus.any Char.isDigit = false) (hplus : plus.any Char.isDigit = false) {m n : Int}
    (h : (if m < 0 then minus else plus) ++ Nat.toDigits 10 m.natAbs
      = (if n < 0 then minus else plus) ++ Nat.toDigits 10 n.natAbs) : m = n := by
  have hfilter : ∀ k : Int,
      ((if k < 0 then minus else plus) ++ Nat.toDigits 10 k.natAbs).filter Char.isDigit
        = Nat.toDigits 10 k.natAbs := by
    intro k
    have hsign : (if k < 0 then minus else plus).filter Char.isDigit = [] := by
      rw [List.filter_eq_nil_iff]
      intro c hc
      split at hc
      · exact List.any_eq_false.1 hminus c hc
      · exact List.any_eq_false.1 hplus c hc
    have hdigits : (Nat.toDigits 10 k.natAbs).filter Char.isDigit = Nat.toDigits 10 k.natAbs :=
      List.filter_eq_self.2 (fun _ hc => Nat.isDigit_of_mem_toDigits (by decide) (by decide) hc)
    rw [List.filter_append, hsign, hdigits, List.nil_append]
  have hdigits : Nat.toDigits 10 m.natAbs = Nat.toDigits 10 n.natAbs := by
    rw [← hfilter m, h, hfilter n]
  have habs : m.natAbs = n.natAbs := by
    rw [← Nat.ofDigitChars_ten_toDigits (n := m.natAbs), hdigits, Nat.ofDigitChars_ten_toDigits]
  rw [hdigits] at h
  have hsign := List.append_cancel_right h
  by_cases hm : m < 0
  · by_cases hn : n < 0
    · omega
    · exact absurd (by simpa [hm, hn] using hsign) hne
  · by_cases hn : n < 0
    · exact absurd (by simpa [hm, hn] using hsign.symm) hne
    · omega

theorem toString_int_injective : Function.Injective (fun value : Int => toString value) := by
  intro m n h
  have htext : (toString m).toList = (toString n).toList := congrArg String.toList h
  rw [Json.toList_toString_int, Json.toList_toString_int] at htext
  exact eq_of_signed_eq (by decide) (by decide) (by decide) htext

theorem legible_toString_int {starts : List Char} (hstarts : starts.any isSigned = false) :
    Legible (fun value : Int => toString value) (Begins starts) :=
  legible_of_inside (fun _ _ hc => isSigned_of_mem_toString hc) toString_int_injective hstarts

theorem isSigned_of_mem_withSign {value : Int} {c : Char} (hc : c ∈ (withSign value).toList) :
    isSigned c = true := by
  rw [withSign] at hc
  split at hc
  · exact isSigned_of_mem_toString hc
  · rw [String.toList_append] at hc
    rcases List.mem_append.1 hc with hplus | hnumber
    · obtain rfl : c = '+' := by simpa using hplus
      decide
    · exact isSigned_of_mem_toString hnumber

theorem toList_withSign (value : Int) :
    (withSign value).toList
      = (if value < 0 then ['-'] else ['+']) ++ Nat.toDigits 10 value.natAbs := by
  by_cases hneg : value < 0
  · rw [withSign, if_pos hneg, Json.toList_toString_int, if_pos hneg, if_pos hneg]
  · rw [withSign, if_neg hneg, String.toList_append, Json.toList_toString_int, if_neg hneg,
      if_neg hneg]
    rfl

theorem withSign_injective : Function.Injective withSign := by
  intro m n h
  have htext : (withSign m).toList = (withSign n).toList := congrArg String.toList h
  rw [toList_withSign, toList_withSign] at htext
  exact eq_of_signed_eq (by decide) (by decide) (by decide) htext

theorem legible_withSign {starts : List Char} (hstarts : starts.any isSigned = false) :
    Legible withSign (Begins starts) :=
  legible_of_inside (fun _ _ hc => isSigned_of_mem_withSign hc) withSign_injective hstarts

end Numbers

section Lists

variable {α : Type} {write : α → String} {itemStop stop : List Char → Prop}

/-- The items of a list after the first, each behind its comma. -/
def afterCommas (write : α → String) (items : List α) : List Char :=
  items.flatMap (fun item => ',' :: (write item).toList)

theorem toList_commaList_cons (item : α) (items : List α) :
    (commaList ((item :: items).map write)).toList
      = (write item).toList ++ afterCommas write items := by
  induction items generalizing item with
  | nil => simp [commaList, afterCommas]
  | cons next items ih =>
      have hnext := ih next
      rw [commaList, List.map_cons] at hnext
      rw [commaList, List.map_cons, List.map_cons, String.intercalate_cons_cons,
        String.toList_append, hnext]
      simp [afterCommas]

/-- What makes a list with commas legible: its items are, before a comma too, and what follows
the list is not taken for a further item. -/
structure LegibleList (write : α → String) (stop itemStop : List Char → Prop) : Prop where
  item : Legible write itemStop
  last : ∀ s, stop s → itemStop s
  comma : ∀ s, itemStop (',' :: s)
  further : ∀ a s t, itemStop s → stop t → ',' :: ((write a).toList ++ s) ≠ t

/-- A bracket ends a list of whatever is stopped by commas and brackets. -/
theorem legibleList_bracket (hitem : Legible write itemStop)
    (hstop : ∀ s, Begins [',', ']'] s → itemStop s) :
    LegibleList write (Begins [']']) itemStop where
  item := hitem
  last := fun s hs => hstop s (hs.mono (by decide))
  comma := fun s => hstop _ (begins_cons (by decide) s)
  further := fun a s t _ ht h => absurd (ht ',' (by rw [← h]; rfl)) (by decide)

theorem itemStop_afterCommas (hlist : LegibleList write stop itemStop) (items : List α)
    {s : List Char} (hs : stop s) : itemStop (afterCommas write items ++ s) := by
  cases items with
  | nil => simpa [afterCommas] using hlist.last s hs
  | cons item items => simpa [afterCommas] using hlist.comma _

theorem LegibleList.legible_afterCommas (hlist : LegibleList write stop itemStop)
    (items others : List α) {s t : List Char} (hs : stop s) (ht : stop t)
    (h : afterCommas write items ++ s = afterCommas write others ++ t) :
    items = others ∧ s = t := by
  induction items generalizing others with
  | nil =>
      cases others with
      | nil => exact ⟨rfl, by simpa [afterCommas] using h⟩
      | cons b others =>
          have hstop := itemStop_afterCommas hlist others ht
          exact absurd (by simpa [afterCommas] using h.symm) (hlist.further b _ s hstop hs)
  | cons a items ih =>
      cases others with
      | nil =>
          have hstop := itemStop_afterCommas hlist items hs
          exact absurd (by simpa [afterCommas] using h) (hlist.further a _ t hstop ht)
      | cons b others =>
          have htail : (write a).toList ++ (afterCommas write items ++ s)
              = (write b).toList ++ (afterCommas write others ++ t) := by
            simpa [afterCommas] using h
          obtain ⟨rfl, hrest⟩ := hlist.item a b _ _ (itemStop_afterCommas hlist items hs)
            (itemStop_afterCommas hlist others ht) htail
          obtain ⟨rfl, hst⟩ := ih others hrest
          exact ⟨rfl, hst⟩

/-- The nonempty lists are legible. -/
theorem LegibleList.legible_commaList (hlist : LegibleList write stop itemStop) (a b : α)
    (items others : List α) {s t : List Char} (hs : stop s) (ht : stop t)
    (h : (commaList ((a :: items).map write)).toList ++ s
      = (commaList ((b :: others).map write)).toList ++ t) :
    a :: items = b :: others ∧ s = t := by
  simp only [toList_commaList_cons, List.append_assoc] at h
  obtain ⟨rfl, hrest⟩ := hlist.item a b _ _ (itemStop_afterCommas hlist items hs)
    (itemStop_afterCommas hlist others ht) h
  obtain ⟨rfl, hst⟩ := hlist.legible_afterCommas items others hs ht hrest
  exact ⟨rfl, hst⟩

/-- A list between two texts, or nothing when it is empty. -/
def listText (opening closing : String) (write : α → String) (items : List α) : String :=
  if items.isEmpty then "" else opening ++ commaList (items.map write) ++ closing

theorem toList_listText_cons (opening closing : String) (item : α) (items : List α)
    (s : List Char) :
    (listText opening closing write (item :: items)).toList ++ s
      = opening.toList
        ++ ((write item).toList ++ (afterCommas write items ++ (closing.toList ++ s))) := by
  simp only [listText, List.isEmpty_cons, Bool.false_eq_true, if_false, String.toList_append,
    toList_commaList_cons, List.append_assoc]

theorem LegibleList.legible_listText {inner : List Char → Prop}
    (hlist : LegibleList write inner itemStop) (opening closing : String)
    (hclosing : ∀ s, stop s → inner (closing.toList ++ s))
    (habsent : ∀ a s t, itemStop s → stop t → opening.toList ++ ((write a).toList ++ s) ≠ t) :
    Legible (listText opening closing write) stop := by
  have hpresent : ∀ a items s t, stop s → stop t →
      (listText opening closing write (a :: items)).toList ++ s ≠ t := by
    intro a items s t hs ht h
    rw [toList_listText_cons] at h
    exact habsent a _ t (itemStop_afterCommas hlist items (hclosing s hs)) ht h
  intro items others s t hs ht h
  cases items with
  | nil =>
      cases others with
      | nil => exact ⟨rfl, by simpa [listText] using h⟩
      | cons b others =>
          exact absurd (by simpa [listText] using h.symm) (hpresent b others t s ht hs)
  | cons a items =>
      cases others with
      | nil => exact absurd (by simpa [listText] using h) (hpresent a items s t hs ht)
      | cons b others =>
          simp only [listText, List.isEmpty_cons, Bool.false_eq_true, if_false,
            String.toList_append, List.append_assoc] at h
          obtain ⟨hitems, hrest⟩ := hlist.legible_commaList a b items others (hclosing s hs)
            (hclosing t ht) (List.append_cancel_left h)
          exact ⟨hitems, List.append_cancel_left hrest⟩

end Lists

end OpeningTimes.Text

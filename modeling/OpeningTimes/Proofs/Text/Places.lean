import OpeningTimes.Proofs.Rule.Framed
import OpeningTimes.Proofs.Text.Selectors

/-!
Places in a rule.  The first characters of a framed part tell which part it is, and the parts
stand in one order.  So an absent part is never mistaken for what follows: that has a later
place.
-/

namespace OpeningTimes

namespace Text

variable {ρ σ τ υ α : Type} {place : List Char → Nat} {first last : Nat}

/-- The texts fill the places from the first to the last: what they tell can be read off them
when something of a later place follows, and they start at the first place or later. -/
structure Fills (place : List Char → Nat) (first last : Nat) (write : ρ → String)
    (told : ρ → τ) : Prop where
  reads : ∀ a b s t, last < place s → last < place t →
    (write a).toList ++ s = (write b).toList ++ t → told a = told b ∧ s = t
  first_le : ∀ a s, last < place s → first ≤ place ((write a).toList ++ s)

theorem Fills.comap {write : ρ → String} {told : ρ → τ} (hfills : Fills place first last write told)
    (field : σ → ρ) :
    Fills place first last (fun a => write (field a)) (fun a => told (field a)) where
  reads := fun a b s t hs ht h => hfills.reads (field a) (field b) s t hs ht h
  first_le := fun a s hs => hfills.first_le (field a) s hs

/-- What comes next may be written in view of what has been told before it. -/
theorem Fills.appendTold {write : ρ → String} {told : ρ → τ} {next : τ → ρ → String}
    {nextTold : ρ → υ} {middle after : Nat} (hfills : Fills place first middle write told)
    (hnext : ∀ v, Fills place after last (next v) nextTold) (hlt : middle < after) :
    Fills place first last (fun a => write a ++ next (told a) a)
      (fun a => (told a, nextTold a)) where
  reads := by
    intro a b s t hs ht h
    simp only [String.toList_append, List.append_assoc] at h
    have hfirst : ∀ v c u, last < place u → middle < place ((next v c).toList ++ u) :=
      fun v c u hu => Nat.lt_of_lt_of_le hlt ((hnext v).first_le c u hu)
    -- What has been told first fixes how both texts go on.
    obtain ⟨htold, hrest⟩ := hfills.reads a b _ _ (hfirst _ a s hs) (hfirst _ b t ht) h
    rw [htold] at hrest
    obtain ⟨hnextTold, hst⟩ := (hnext (told b)).reads a b s t hs ht hrest
    exact ⟨by rw [htold, hnextTold], hst⟩
  first_le := by
    intro a s hs
    rw [String.toList_append, List.append_assoc]
    exact hfills.first_le a _ (Nat.lt_of_lt_of_le hlt ((hnext (told a)).first_le a s hs))

theorem Fills.append {write next : ρ → String} {told : ρ → τ} {nextTold : ρ → υ}
    {middle after : Nat} (hfills : Fills place first middle write told)
    (hnext : Fills place after last next nextTold) (hlt : middle < after) :
    Fills place first last (fun a => write a ++ next a) (fun a => (told a, nextTold a)) :=
  hfills.appendTold (fun _ => hnext) hlt

/-- A list fills its place when its opening and its first item show the place. -/
theorem fills_listText {write : α → String} {inner itemStop : List Char → Prop}
    (hlist : LegibleList write inner itemStop) {opening closing : String} {n : Nat}
    (hclosing : ∀ s, n < place s → inner (closing.toList ++ s))
    (hplace : ∀ a s, itemStop s → place (opening.toList ++ ((write a).toList ++ s)) = n) :
    Fills place n n (listText opening closing write) id where
  reads := by
    have hlegible : Legible (listText opening closing write) (fun s => n < place s) :=
      hlist.legible_listText opening closing hclosing
        (fun a s t hs ht h => Nat.ne_of_gt ht (by rw [← h, hplace a s hs]))
    exact hlegible
  first_le := by
    intro items s hs
    cases items with
    | nil => exact Nat.le_of_lt (by simpa [listText] using hs)
    | cons item items =>
        rw [toList_listText_cons,
          hplace item _ (itemStop_afterCommas hlist items (hclosing s hs))]

theorem fills_optionalText {write : α → String} {n : Nat}
    (hlegible : Legible write (fun s => n < place s))
    (hplace : ∀ a s, place ((write a).toList ++ s) = n) :
    Fills place n n (fun part => optionalText part write) id where
  reads := by
    have hpart : Legible (fun part => optionalText part write) (fun s => n < place s) :=
      hlegible.optionalText (fun a s t _ ht h => Nat.ne_of_gt ht (by rw [← h, hplace a s]))
    exact hpart
  first_le := by
    intro part s hs
    cases part with
    | none => exact Nat.le_of_lt (by simpa [optionalText] using hs)
    | some a => rw [optionalText, hplace a s]

theorem fills_flag {word : String} {n : Nat} (hplace : ∀ s, place (word.toList ++ s) = n) :
    Fills place n n (fun flag : Bool => if flag then word else "") id where
  reads := by
    have hflag : Legible (fun flag : Bool => if flag then word else "") (fun s => n < place s) :=
      legible_flag (fun s t _ ht h => Nat.ne_of_gt ht (by rw [← h, hplace s]))
    exact hflag
  first_le := by
    intro flag s hs
    cases flag with
    | false => exact Nat.le_of_lt (by simpa using hs)
    | true => simp [hplace s]

end Text

/-- The place of a part among the parts of a rule. -/
def Label.place : Label → Nat
  | .always => 1
  | .years => 2
  | .dates => 3
  | .weeks => 4
  | .holidays => 5
  | .days => 6
  | .times => 7
  | .modifier => 8
  | .comment => 9

def endPlace : Nat :=
  10

/-- What follows a rule: nothing, or the separator of the next rule. -/
def EndsRule (s : List Char) : Prop :=
  s = [] ∨ ∃ kind : CombinationKind, ∃ u, s = kind.separator.toList ++ u

theorem Modifier.legible (stop : List Char → Prop) : Text.Legible Modifier.text stop := by
  intro modifier other s t _ _ h
  cases modifier <;> cases other <;> simp_all [Modifier.text]

end OpeningTimes

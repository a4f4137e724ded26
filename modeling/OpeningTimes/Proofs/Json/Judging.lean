import OpeningTimes.Json.Report
import OpeningTimes.Proofs.Json.Accepting

/-!
Checks of what has been read.  A decoder that checks values reads what the same decoder without
checks reads, and further on as long as there is nothing to object to; the first objection is its
fault.
-/

namespace OpeningTimes.Json

section Reports

/-- The report ends in the words for a position. -/
def EndsInPosition (report : String) : Prop :=
  ∃ front line column, SomeDigits line ∧ SomeDigits column ∧
    report.toList = front ++ (lineWords ++ (line ++ (columnWords ++ column)))

theorem not_endsInPosition_of_words {report : String}
    (hwords : ¬ lineWords <:+: report.toList) : ¬ EndsInPosition report := by
  rintro ⟨front, line, column, -, -, htext⟩
  exact hwords ⟨front, line ++ (columnWords ++ column), by rw [htext, List.append_assoc]⟩

theorem eq_of_afterStart? {start s rest : List Char} (hstart : afterStart? start s = some rest) :
    s = start ++ rest := by
  induction start generalizing s with
  | nil => exact Option.some.inj hstart
  | cons expected more ih =>
      cases s with
      | nil => cases hstart
      | cons c s =>
          rw [afterStart?] at hstart
          split at hstart
          · next hc => rw [hc, ih hstart, List.cons_append]
          · cases hstart

theorem someDigits_of_leadingNumber? {s rest : List Char} {value : Nat}
    (hnumber : leadingNumber? s = some (value, rest)) :
    ∃ digits, SomeDigits digits ∧ s = digits ++ rest := by
  unfold leadingNumber? at hnumber
  split at hnumber
  · cases hnumber
  · next found left hne hdigits =>
    split at hnumber
    · obtain ⟨-, rfl⟩ := Prod.mk.inj (Option.some.inj hnumber)
      exact ⟨found, someDigits_of_digits hdigits hne⟩
    · cases hnumber

theorem eq_of_cutAtLastLine? {s before after : List Char}
    (hcut : cutAtLastLine? s = some (before, after)) : s = before ++ after := by
  induction s generalizing before with
  | nil => cases hcut
  | cons c s ih =>
      rw [cutAtLastLine?] at hcut
      split at hcut
      · next front back hrest =>
        obtain ⟨rfl, rfl⟩ := Prod.mk.inj (Option.some.inj hcut)
        rw [ih hrest, List.cons_append]
      · split at hcut
        · obtain ⟨rfl, rfl⟩ := Prod.mk.inj (Option.some.inj hcut)
          rfl
        · cases hcut

/-- Only a report that ends in a position is cut. -/
theorem endsInPosition_of_splitReport? {report : String} {found : List Char × Position}
    (hsplit : splitReport? report.toList = some found) : EndsInPosition report := by
  obtain ⟨⟨front, back⟩, hcut, hsplit⟩ := Option.bind_eq_some_iff.1 hsplit
  obtain ⟨position, hposition, -⟩ := Option.bind_eq_some_iff.1 hsplit
  obtain ⟨s, hline, hposition⟩ := Option.bind_eq_some_iff.1 hposition
  obtain ⟨⟨line, t⟩, hlineNumber, hposition⟩ := Option.bind_eq_some_iff.1 hposition
  obtain ⟨u, hcolumn, hposition⟩ := Option.bind_eq_some_iff.1 hposition
  obtain ⟨⟨column, v⟩, hcolumnNumber, hend⟩ := Option.bind_eq_some_iff.1 hposition
  obtain ⟨lineDigits, hlineDigits, rfl⟩ := someDigits_of_leadingNumber? hlineNumber
  obtain ⟨columnDigits, hcolumnDigits, rfl⟩ := someDigits_of_leadingNumber? hcolumnNumber
  obtain rfl : v = [] := by
    dsimp only at hend
    split at hend
    · next hempty => exact List.isEmpty_iff.1 hempty
    · cases hend
  refine ⟨front, lineDigits, columnDigits, hlineDigits, hcolumnDigits, ?_⟩
  rw [eq_of_cutAtLastLine? hcut, eq_of_afterStart? hline, eq_of_afterStart? hcolumn,
    List.append_nil]

/-- The fault gives the report, at a place that depends on where it was found, unless the report
ends in a position of its own. -/
def Fault.Reports (report : String) (fault : Fault) : Prop :=
  ¬ EndsInPosition report →
    fault.cause = .refused report ∧ ∀ position, fault.place ≠ .given position

theorem Fault.reports_refused (report : String) (rest : List Char) :
    (Fault.refused report rest).Reports report := by
  intro hends
  rw [Fault.refused]
  split
  · exact ⟨rfl, fun _ => by simp⟩
  · next hsplit => exact absurd (endsInPosition_of_splitReport? hsplit) hends

theorem Fault.Reports.enclosed {report : String} {fault : Fault} (hreports : fault.Reports report)
    (close : List Char → List Char) : (fault.enclosed close).Reports report := by
  intro hends
  obtain ⟨hcause, hplace⟩ := hreports hends
  refine ⟨(Fault.cause_enclosed close fault).trans hcause, ?_⟩
  rw [Fault.enclosed]
  split
  · exact fun _ => by simp [Fault.here]
  · exact hplace

/-- A report that has a place, and brings none with it, is refused at a position. -/
theorem Fault.Reports.locate {report : String} {fault : Fault} (hreports : fault.Reports report)
    (hends : ¬ EndsInPosition report) (hplace : fault.place ≠ .unplaced) (text : List Char) :
    ∃ position, fault.locate text = ⟨.refused report, some position⟩ := by
  obtain ⟨hcause, hgiven⟩ := hreports hends
  rw [Fault.locate]
  split
  · exact ⟨_, by rw [hcause]⟩
  · next hunplaced => exact absurd hunplaced hplace
  · next position hposition => exact absurd hposition (hgiven position)

end Reports

/-- What comes of a check: without an objection a fitting value is read up to the rest, and an
objection is what is reported. -/
inductive Verdict {α : Type} (fits : α → Prop) (rest : List Char) :
    Option String → Except Fault (α × List Char) → Prop
  | passed {value : α} (hfits : fits value) : Verdict fits rest none (.ok (value, rest))
  | refused {report : String} {fault : Fault} (hreports : fault.Reports report) :
      Verdict fits rest (some report) (.error fault)

/-- Where the second decoder reads a value, the first one finds it as the objection says. -/
def Judges {α β : Type} (read : Decoder α) (other : Decoder β) (objection : β → Option String) :
    Prop :=
  ∀ s raw rest, other s = .ok (raw, rest) → Verdict (fun _ => True) rest (objection raw) (read s)

/-- A decoder has nothing to object to in what it reads. -/
theorem judges_self {α : Type} (read : Decoder α) : Judges read read (fun _ => none) := by
  intro s value rest hread
  rw [hread]
  exact .passed trivial

section Verdicts

variable {α β : Type} {fits : α → Prop} {wanted : β → Prop} {between rest : List Char}
  {first second : Option String} {found : Except Fault (α × List Char)}
  {next : α × List Char → Except Fault (β × List Char)}

/-- Of two checks one after the other the second is made if the first has no objection. -/
theorem Verdict.bind (hfirst : Verdict fits between first found)
    (hnext : ∀ value, fits value → Verdict wanted rest second (next (value, between))) :
    Verdict wanted rest (first.or second) (found >>= next) := by
  cases hfirst with
  | passed hfits => exact hnext _ hfits
  | refused hreports => exact .refused hreports

/-- After a check there is nothing more to object to. -/
theorem Verdict.bind_ok (hfirst : Verdict fits between first found)
    (hnext : ∀ value, fits value → ∃ other, next (value, between) = .ok (other, rest) ∧
      wanted other) : Verdict wanted rest first (found >>= next) := by
  rw [← Option.or_none (o := first)]
  refine hfirst.bind fun value hfits => ?_
  obtain ⟨other, hother, hwanted⟩ := hnext value hfits
  rw [hother]
  exact .passed hwanted

theorem Verdict.outcome (hfound : Verdict fits rest first found) :
    (first = none ∧ ∃ value, found = .ok (value, rest) ∧ fits value) ∨
      ∃ report fault, first = some report ∧ found = .error fault ∧ fault.Reports report := by
  cases hfound with
  | passed hfits => exact Or.inl ⟨rfl, _, rfl, hfits⟩
  | refused hreports => exact Or.inr ⟨_, _, rfl, rfl, hreports⟩

end Verdicts

section Lists

variable {α β γ δ : Type} {read : Decoder α} {other : Decoder β} {objection : β → Option String}

theorem Judges.map (hjudges : Judges read other objection) (f : α → γ) :
    Judges (Decoder.map f read) other objection := by
  intro s raw rest hother
  rw [Decoder.map]
  rcases (hjudges s raw rest hother).outcome with
    ⟨hnone, value, hread, -⟩ | ⟨report, fault, hsome, hread, hreports⟩
  · rw [hread, hnone]
    exact .passed trivial
  · rw [hread, hsome]
    exact .refused hreports

theorem Judges.comap {objection : δ → Option String} (g : β → δ)
    (hjudges : Judges read other (fun raw => objection (g raw))) :
    Judges read (Decoder.map g other) objection := by
  intro s raw rest hother
  unfold Decoder.map at hother
  split at hother
  · cases hother
  · next found left hfound =>
    obtain ⟨rfl, rfl⟩ := Prod.mk.inj (Except.ok.inj hother)
    exact hjudges s found left hfound

theorem findSome?_cons_eq_or (raw : β) (more : List β) :
    (raw :: more).findSome? objection = (objection raw).or (more.findSome? objection) := by
  rw [List.findSome?_cons]
  cases objection raw with
  | none => rfl
  | some report => rfl

/-- The run: the elements are read up to the first objection. -/
theorem Judges.elementsIn (hjudges : Judges read other objection) (rounds : Nat) (first : Bool) :
    Judges (Decoder.elementsIn read rounds first) (Decoder.elementsIn other rounds first)
      (List.findSome? objection) := by
  induction rounds generalizing first with
  | zero =>
      intro s raws rest hother
      cases hother
  | succ rounds ih =>
      intro s raws rest hother
      obtain ⟨found, hnext, hother⟩ := bind_eq_ok.1 hother
      cases found with
      | none =>
          obtain ⟨rfl, rfl⟩ := Prod.mk.inj (Except.ok.inj hother)
          rw [elementsIn_close hnext]
          exact .passed trivial
      | some t =>
          obtain ⟨⟨raw, u⟩, hraw, hother⟩ := bind_eq_ok.1 hother
          obtain ⟨⟨more, v⟩, hmore, hother⟩ := bind_eq_ok.1 hother
          obtain ⟨rfl, rfl⟩ := Prod.mk.inj (Except.ok.inj hother)
          rw [Decoder.elementsIn, hnext, findSome?_cons_eq_or]
          refine (hjudges t raw u hraw).bind fun value _ => ?_
          exact (ih false u more v hmore).bind_ok fun values _ => ⟨value :: values, rfl, trivial⟩

theorem Judges.list (hjudges : Judges read other objection) :
    Judges (Decoder.list read) (Decoder.list other) (List.findSome? objection) := by
  intro s raws rest hother
  unfold Decoder.list at hother ⊢
  split at hother
  · next t hs =>
    split at hother
    · cases hother
    · next found left helements =>
      obtain ⟨rfl, rfl⟩ := Prod.mk.inj (Except.ok.inj hother)
      rcases (hjudges.elementsIn _ _ t found left helements).outcome with
        ⟨hnone, values, hread, -⟩ | ⟨report, fault, hsome, hread, hreports⟩
      · rw [hread, hnone]
        exact .passed trivial
      · rw [hread, hsome]
        exact .refused (hreports.enclosed Decoder.closeList)
  · cases hother

/-- Where a list can be read without a check, what the check reports has a place. -/
theorem place_list_ne {s rest : List Char} {raws : List β} {fault : Fault}
    (hother : Decoder.list other s = .ok (raws, rest))
    (hread : Decoder.list read s = .error fault) : fault.place ≠ .unplaced := by
  unfold Decoder.list at hother hread
  split at hother
  · next t hs =>
    simp only [hs] at hread
    split at hread
    · next found _ =>
      obtain rfl := Except.error.inj hread
      exact Fault.place_enclosed_ne Decoder.closeList found
    · cases hread
  · cases hother

/-- Where a whole text is read without the check, it is also read with the check, or else the
objection is its fault. -/
theorem Judges.decode (hjudges : Judges read other objection) {text : String} {raw : β}
    (hraw : Decoder.decode other text = .ok raw) :
    ∃ rest, other text.toList = .ok (raw, rest) ∧
      ((objection raw = none ∧ ∃ value, Decoder.decode read text = .ok value) ∨
        ∃ report fault, objection raw = some report ∧ read text.toList = .error fault ∧
          Decoder.decode read text = .error (fault.locate text.toList) ∧ fault.Reports report) := by
  unfold Decoder.decode at hraw
  split at hraw
  · next found hwhole =>
    obtain rfl := Except.ok.inj hraw
    obtain ⟨⟨raw, rest⟩, hother, hwhole⟩ := bind_eq_ok.1 hwhole
    dsimp only at hwhole
    split at hwhole
    · next hblank =>
      obtain rfl := Except.ok.inj hwhole
      refine ⟨rest, hother, ?_⟩
      rw [Decoder.decode, Decoder.whole]
      rcases (hjudges text.toList raw rest hother).outcome with
        ⟨hnone, value, hread, -⟩ | ⟨report, fault, hsome, hread, hreports⟩
      · exact Or.inl ⟨hnone, value, by simp [hread, hblank, bind, Except.bind]⟩
      · exact Or.inr ⟨report, fault, hsome, hread, by simp [hread, bind, Except.bind], hreports⟩
    · cases hwhole
  · cases hraw

end Lists

section Records

variable {α β : Type} {types others : List Type}

/-- Fields that are the same but for one, which has a check only among the first; the functions
pick its part of the values and of a draft, and the relation holds of drafts that agree on the other
fields and in that this one has been read. -/
inductive Fields.Checks (checked : Field α) (field : Field β) : {types others : List Type} →
    Fields types → Fields others → (Values others → β) → (Draft others → Option β) →
    (Draft types → Draft others → Prop) → Prop
  | here {types : List Type} {fields : Fields types} :
      Checks checked field (.cons checked fields) (.cons field fields) (fun values => values.1)
        (fun draft => draft.1)
        (fun draft raw => draft.1.isSome = raw.1.isSome ∧ draft.2 = raw.2)
  | there {γ : Type} {types others : List Type} {other : Field γ} {fields : Fields types}
      {more : Fields others} {get : Values others → β} {slot : Draft others → Option β}
      {agree : Draft types → Draft others → Prop}
      (hchecks : Checks checked field fields more get slot agree) :
      Checks checked field (.cons other fields) (.cons other more) (fun values => get values.2)
        (fun draft => slot draft.2) (fun draft raw => draft.1 = raw.1 ∧ agree draft.2 raw.2)

/-- A field with a check can stand for the field without it. -/
structure Field.Judges (checked : Field α) (field : Field β) (objection : β → Option String) :
    Prop where
  name : checked.name = field.name
  read : Json.Judges checked.read field.read objection
  default : ∀ raw, field.default? = some raw →
    objection raw = none ∧ ∃ value, checked.default? = some value

theorem Field.judges_self (field : Field α) : field.Judges field (fun _ => none) where
  name := rfl
  read := Json.judges_self field.read
  default := fun raw hraw => ⟨rfl, raw, hraw⟩

/-- The step: the next field's value is found as its objection says, and then the others. -/
theorem Field.Judges.positional_cons {checked : Field α} {field : Field β}
    {objection : β → Option String} (hjudges : checked.Judges field objection)
    {fields : Fields types} {more : Fields others} {second : Values others → Option String}
    {record : String} {total index : Nat}
    (hrest : Json.Judges (fields.positional record total (index + 1))
      (more.positional record total (index + 1)) second) :
    Json.Judges ((Fields.cons checked fields).positional record total index)
      ((Fields.cons field more).positional record total index)
      (fun values => (objection values.1).or (second values.2)) := by
  intro s values rest hread
  obtain ⟨next, hnext, hread⟩ := bind_eq_ok.1 hread
  simp only [Fields.positional, hnext, bind, Except.bind]
  cases next with
  | some t =>
      obtain ⟨⟨raw, u⟩, hraw, hread⟩ := bind_eq_ok.1 hread
      obtain ⟨⟨raws, v⟩, hraws, hread⟩ := bind_eq_ok.1 hread
      obtain ⟨rfl, rfl⟩ := Prod.mk.inj (Except.ok.inj hread)
      refine (hjudges.read t raw u hraw).bind fun value _ => ?_
      exact (hrest u raws v hraws).bind_ok fun values _ => ⟨(value, values), rfl, trivial⟩
  | none =>
      dsimp only at hread
      split at hread
      · cases hread
      · next raw hraw =>
        obtain ⟨⟨raws, v⟩, hraws, hread⟩ := bind_eq_ok.1 hread
        obtain ⟨rfl, rfl⟩ := Prod.mk.inj (Except.ok.inj hread)
        obtain ⟨hpassed, value, hvalue⟩ := hjudges.default raw hraw
        simp only [hvalue, hpassed, Option.none_or]
        exact (hrest s raws v hraws).bind_ok fun values _ => ⟨(value, values), rfl, trivial⟩

namespace Fields.Checks

variable {checked : Field α} {field : Field β} {objection : β → Option String}
  {fields : Fields types} {more : Fields others} {get : Values others → β}
  {slot : Draft others → Option β} {agree : Draft types → Draft others → Prop}

theorem blank (hchecks : Checks checked field fields more get slot agree) :
    agree fields.blank more.blank ∧ slot more.blank = none := by
  induction hchecks with
  | here => exact ⟨⟨rfl, rfl⟩, rfl⟩
  | there _ ih => exact ⟨⟨rfl, ih.1⟩, ih.2⟩

theorem length_eq (hchecks : Checks checked field fields more get slot agree) :
    types.length = others.length := by
  induction hchecks with
  | here => rfl
  | there _ ih => exact congrArg (· + 1) ih

/-- A field that has been read is not read again. -/
theorem slot_member (hchecks : Checks checked field fields more get slot agree) {key : String}
    {start next : Draft others} {raw : β} (hslot : slot start = some raw) {s rest : List Char}
    (hread : more.member key start s = .ok (next, rest)) : slot next = some raw := by
  induction hchecks with
  | @here types fields =>
      obtain ⟨filled, draft⟩ := start
      obtain rfl : filled = some raw := hslot
      by_cases hkey : key = field.name
      · subst hkey
        rw [member_repeated] at hread
        cases hread
      · rw [member_other field fields hkey] at hread
        obtain ⟨⟨after, u⟩, -, hread⟩ := bind_eq_ok.1 hread
        obtain ⟨rfl, -⟩ := Prod.mk.inj (Except.ok.inj hread)
        rfl
  | @there _ _ _ other fields more get slot agree _ ih =>
      obtain ⟨filled, draft⟩ := start
      by_cases hkey : key = other.name
      · subst hkey
        cases filled with
        | some found =>
            rw [member_repeated] at hread
            cases hread
        | none =>
            rw [member_fresh] at hread
            obtain ⟨t, -, hread⟩ := bind_eq_ok.1 hread
            obtain ⟨⟨found, u⟩, -, hread⟩ := bind_eq_ok.1 hread
            obtain ⟨rfl, -⟩ := Prod.mk.inj (Except.ok.inj hread)
            exact hslot
      · rw [member_other other more hkey] at hread
        obtain ⟨⟨after, u⟩, hafter, hread⟩ := bind_eq_ok.1 hread
        obtain ⟨rfl, rfl⟩ := Prod.mk.inj (Except.ok.inj hread)
        exact ih hslot hafter

/-- The step: the member is read as before, but if it has the checked field's value the check is
made. -/
theorem member (hchecks : Checks checked field fields more get slot agree)
    (hjudges : checked.Judges field objection) {key : String} {start : Draft types}
    {raw next : Draft others} (hagree : agree start raw)
    (hnone : (slot raw).bind objection = none) {s rest : List Char}
    (hread : more.member key raw s = .ok (next, rest)) :
    Verdict (agree · next) rest ((slot next).bind objection) (fields.member key start s) := by
  induction hchecks with
  | @here types fields =>
      obtain ⟨filled, draft⟩ := start
      obtain ⟨slot, rawDraft⟩ := raw
      obtain ⟨hfilled, rfl⟩ : filled.isSome = slot.isSome ∧ draft = rawDraft := hagree
      by_cases hkey : key = field.name
      · subst hkey
        cases slot with
        | some found =>
            rw [member_repeated] at hread
            cases hread
        | none =>
            obtain rfl : filled = none := by simpa using hfilled
            have hfresh := member_fresh checked fields draft s
            rw [hjudges.name] at hfresh
            rw [member_fresh] at hread
            obtain ⟨t, hcolon, hread⟩ := bind_eq_ok.1 hread
            obtain ⟨⟨found, u⟩, hfound, hread⟩ := bind_eq_ok.1 hread
            obtain ⟨rfl, rfl⟩ := Prod.mk.inj (Except.ok.inj hread)
            rw [hfresh, hcolon]
            exact (hjudges.read t found u hfound).bind_ok fun value _ =>
              ⟨(some value, draft), rfl, rfl, rfl⟩
      · rw [member_other field fields hkey] at hread
        obtain ⟨⟨after, u⟩, hafter, hread⟩ := bind_eq_ok.1 hread
        obtain ⟨rfl, rfl⟩ := Prod.mk.inj (Except.ok.inj hread)
        rw [member_other checked fields (hjudges.name ▸ hkey), hafter,
          show Option.bind slot objection = none from hnone]
        exact .passed ⟨hfilled, rfl⟩
  | @there _ _ _ other fields more get slot agree _ ih =>
      obtain ⟨filled, draft⟩ := start
      obtain ⟨rawFilled, rawDraft⟩ := raw
      obtain ⟨rfl, hagree⟩ : filled = rawFilled ∧ agree draft rawDraft := hagree
      by_cases hkey : key = other.name
      · subst hkey
        cases filled with
        | some found =>
            rw [member_repeated] at hread
            cases hread
        | none =>
            rw [member_fresh] at hread ⊢
            obtain ⟨t, hcolon, hread⟩ := bind_eq_ok.1 hread
            obtain ⟨⟨found, u⟩, hfound, hread⟩ := bind_eq_ok.1 hread
            obtain ⟨rfl, rfl⟩ := Prod.mk.inj (Except.ok.inj hread)
            simp only [hcolon, hfound, bind, Except.bind]
            rw [show (slot rawDraft).bind objection = none from hnone]
            exact .passed ⟨rfl, hagree⟩
      · rw [member_other other more hkey] at hread
        rw [member_other other fields hkey]
        obtain ⟨⟨after, u⟩, hafter, hread⟩ := bind_eq_ok.1 hread
        obtain ⟨rfl, rfl⟩ := Prod.mk.inj (Except.ok.inj hread)
        exact (ih hagree hnone hafter).bind_ok fun draft hagree =>
          ⟨(filled, draft), rfl, rfl, hagree⟩

/-- A check that had an objection has it after more members, too. -/
theorem bind_slot_membersIn (hchecks : Checks checked field fields more get slot agree)
    {rounds : Nat} {first : Bool} {start next : Draft others} {report : String}
    (hsome : (slot start).bind objection = some report) {s rest : List Char}
    (hread : membersIn more rounds first start s = .ok (next, rest)) :
    (slot next).bind objection = some report := by
  induction rounds generalizing first start s with
  | zero => cases hread
  | succ rounds ih =>
      obtain ⟨found, -, hread⟩ := bind_eq_ok.1 hread
      cases found with
      | none =>
          obtain ⟨rfl, -⟩ := Prod.mk.inj (Except.ok.inj hread)
          exact hsome
      | some t =>
          obtain ⟨⟨key, u⟩, -, hread⟩ := bind_eq_ok.1 hread
          obtain ⟨⟨draft, v⟩, hmember, hread⟩ := bind_eq_ok.1 hread
          obtain ⟨raw, hslot, hraw⟩ := Option.bind_eq_some_iff.1 hsome
          refine ih ?_ hread
          rw [hchecks.slot_member hslot hmember]
          exact hraw

/-- The run: the members are read up to the objection to the checked field's value. -/
theorem members (hchecks : Checks checked field fields more get slot agree)
    (hjudges : checked.Judges field objection) {rounds : Nat} {first : Bool}
    {start : Draft types} {raw next : Draft others} (hagree : agree start raw)
    (hnone : (slot raw).bind objection = none) {s rest : List Char}
    (hread : membersIn more rounds first raw s = .ok (next, rest)) :
    Verdict (agree · next) rest ((slot next).bind objection)
      (membersIn fields rounds first start s) := by
  induction rounds generalizing first start raw s with
  | zero => cases hread
  | succ rounds ih =>
      obtain ⟨found, hnext, hread⟩ := bind_eq_ok.1 hread
      rw [membersIn, hnext]
      cases found with
      | none =>
          obtain ⟨rfl, rfl⟩ := Prod.mk.inj (Except.ok.inj hread)
          rw [hnone]
          exact .passed hagree
      | some t =>
          obtain ⟨⟨key, u⟩, hkey, hread⟩ := bind_eq_ok.1 hread
          obtain ⟨⟨draft, v⟩, hmember, hread⟩ := bind_eq_ok.1 hread
          have hverdict := hchecks.member hjudges hagree hnone hmember
          simp only [hkey, bind, Except.bind]
          rcases hverdict.outcome with
            ⟨hpassed, filled, hfilled, hagrees⟩ | ⟨report, fault, hsome, hfault, hreports⟩
          · rw [hfilled]
            exact ih hagrees hpassed hread
          · rw [hfault, hchecks.bind_slot_membersIn hsome hread]
            exact .refused hreports

/-- Where the one draft has all its values, so has the other. -/
theorem complete (hchecks : Checks checked field fields more get slot agree)
    (hjudges : checked.Judges field objection) {draft : Draft types} {raw : Draft others}
    (hagree : agree draft raw) {values : Values others}
    (hcomplete : more.complete raw = .ok values) :
    ∃ found, fields.complete draft = .ok found := by
  induction hchecks with
  | @here types fields =>
      obtain ⟨filled, draft⟩ := draft
      obtain ⟨slot, rawDraft⟩ := raw
      obtain ⟨hfilled, rfl⟩ : filled.isSome = slot.isSome ∧ draft = rawDraft := hagree
      rw [Fields.complete] at hcomplete
      split at hcomplete
      · cases hcomplete
      · next raw hraw =>
        obtain ⟨rest, hrest, -⟩ := bind_eq_ok.1 hcomplete
        cases slot with
        | some found =>
            obtain ⟨value, rfl⟩ := Option.isSome_iff_exists.1 hfilled
            exact ⟨(value, rest), by simp [Fields.complete, hrest, bind, Except.bind]⟩
        | none =>
            obtain rfl : filled = none := by simpa using hfilled
            obtain ⟨-, value, hvalue⟩ := hjudges.default raw hraw
            exact ⟨(value, rest), by simp [Fields.complete, hvalue, hrest, bind, Except.bind]⟩
  | @there _ _ _ other fields more get slot agree _ ih =>
      obtain ⟨filled, draft⟩ := draft
      obtain ⟨rawFilled, rawDraft⟩ := raw
      obtain ⟨rfl, hagree⟩ : filled = rawFilled ∧ agree draft rawDraft := hagree
      rw [Fields.complete] at hcomplete
      split at hcomplete
      · cases hcomplete
      · next value hvalue =>
        obtain ⟨rest, hrest, -⟩ := bind_eq_ok.1 hcomplete
        obtain ⟨found, hfound⟩ := ih hagree hrest
        exact ⟨(value, found), by simp [Fields.complete, hvalue, hfound, bind, Except.bind]⟩

/-- A default has nothing to object to, so the check is of the value that has been read. -/
theorem objection_complete (hchecks : Checks checked field fields more get slot agree)
    (hjudges : checked.Judges field objection) {raw : Draft others} {values : Values others}
    (hcomplete : more.complete raw = .ok values) :
    objection (get values) = (slot raw).bind objection := by
  induction hchecks with
  | @here types fields =>
      obtain ⟨slot, draft⟩ := raw
      rw [Fields.complete] at hcomplete
      split at hcomplete
      · cases hcomplete
      · next raw hraw =>
        obtain ⟨rest, -, hcomplete⟩ := bind_eq_ok.1 hcomplete
        obtain rfl := Except.ok.inj hcomplete
        cases slot with
        | some found => rw [show raw = found from (Option.some.inj hraw).symm]; rfl
        | none => exact (hjudges.default raw hraw).1
  | @there _ _ _ other fields more get slot agree _ ih =>
      obtain ⟨filled, draft⟩ := raw
      rw [Fields.complete] at hcomplete
      split at hcomplete
      · cases hcomplete
      · obtain ⟨rest, hrest, hcomplete⟩ := bind_eq_ok.1 hcomplete
        obtain rfl := Except.ok.inj hcomplete
        exact ih hrest

/-- An object with the field's value is found as the objection to it says. -/
theorem keyed (hchecks : Checks checked field fields more get slot agree)
    (hjudges : checked.Judges field objection) :
    Json.Judges (Json.keyed fields) (Json.keyed more) (fun values => objection (get values)) := by
  intro s values rest hread
  obtain ⟨⟨raw, left⟩, hmembers, hread⟩ := bind_eq_ok.1 hread
  dsimp only at hread
  split at hread
  · next found hcomplete =>
    obtain ⟨rfl, rfl⟩ := Prod.mk.inj (Except.ok.inj hread)
    obtain ⟨hagree, hblank⟩ := hchecks.blank
    have hnone : (slot more.blank).bind objection = none := by
      rw [hblank]
      rfl
    have hverdict := hchecks.members hjudges hagree hnone hmembers
    rw [← hchecks.objection_complete hjudges hcomplete] at hverdict
    refine hverdict.bind_ok fun draft hagree => ?_
    obtain ⟨others, hothers⟩ := hchecks.complete hjudges hagree hcomplete
    exact ⟨others, by simp only [hothers], trivial⟩
  · cases hread

/-- A list of field values is found as the objection to the field's value says. -/
theorem positional (hchecks : Checks checked field fields more get slot agree)
    (hjudges : checked.Judges field objection) (record : String) (total index : Nat) :
    Json.Judges (fields.positional record total index) (more.positional record total index)
      (fun values => objection (get values)) := by
  induction hchecks generalizing index with
  | @here types fields =>
      have hcons := hjudges.positional_cons
        (judges_self (fields.positional record total (index + 1)))
      simpa only [Option.or_none] using hcons
  | @there _ _ _ other fields more get slot agree _ ih =>
      exact (Field.judges_self other).positional_cons (ih (index + 1))

/-- A record is found as the objection to the value of the checked field says. -/
theorem record (hchecks : Checks checked field fields more get slot agree)
    (hjudges : checked.Judges field objection) (name : String) :
    Json.Judges (Decoder.record name fields) (Decoder.record name more)
      (fun values => objection (get values)) := by
  intro s values rest hread
  unfold Decoder.record at hread ⊢
  split at hread
  · next t hs =>
    split at hread
    · cases hread
    · next found left hpositional =>
      obtain ⟨after, hclose, hread⟩ := bind_eq_ok.1 hread
      obtain ⟨rfl, rfl⟩ := Prod.mk.inj (Except.ok.inj hread)
      rcases (hchecks.positional hjudges name _ 0 t found left hpositional).outcome with
        ⟨hnone, others, hothers, -⟩ | ⟨report, fault, hsome, hfault, hreports⟩
      · rw [Fields.count, hchecks.length_eq, ← Fields.count, hothers, hnone]
        simp only [hclose, bind, Except.bind]
        exact .passed trivial
      · rw [Fields.count, hchecks.length_eq, ← Fields.count, hfault, hsome]
        exact .refused (hreports.enclosed Decoder.closeList)
  · next t hs =>
    split at hread
    · cases hread
    · next found left hkeyed =>
      obtain ⟨rfl, rfl⟩ := Prod.mk.inj (Except.ok.inj hread)
      rcases (hchecks.keyed hjudges t found left hkeyed).outcome with
        ⟨hnone, others, hothers, -⟩ | ⟨report, fault, hsome, hfault, hreports⟩
      · rw [hothers, hnone]
        exact .passed trivial
      · rw [hfault, hsome]
        exact .refused (hreports.enclosed Decoder.closeObject)
  · cases hread

end Fields.Checks

end Records

end OpeningTimes.Json

import OpeningTimes.Proofs.Text.Places

/-!
Labelled texts.  A labelled part starts with its label and ends with a bracket, so its place and
its end are plain to see.
-/

namespace OpeningTimes

open Text

def labelPlaces : List (List Char × Nat) :=
  [Label.always, .years, .dates, .weeks, .holidays, .days, .times, .modifier, .comment].map
    (fun label => (label.name.toList, label.place))

/-- The place of what a labelled text starts with.  The tag of the kind comes before all
places. -/
def labelledPlace : List Char → Nat
  | [] => endPlace
  | ' ' :: '|' :: _ => endPlace
  | ' ' :: s => (labelPlaces.lookup (s.takeWhile (· != '['))).getD 0
  | ';' :: _ => endPlace
  | ',' :: _ => endPlace
  | _ => 0

theorem labelledPlace_of_endsRule {s : List Char} (hs : EndsRule s) :
    labelledPlace s = endPlace := by
  rcases hs with rfl | ⟨kind, u, rfl⟩
  · rfl
  · cases kind <;> rfl

theorem labelledPlace_opening (label : Label) (s : List Char) :
    labelledPlace ((Frame.labelled.opening label).toList ++ s) = label.place := by
  cases label <;> simp [Frame.labelled, Label.name] <;> rfl

section Fills

variable {α : Type} {write : α → String} {itemStop : List Char → Prop}

theorem fills_labelled_list (label : Label) (lead : String) (hitem : Legible write itemStop)
    (hstop : ∀ s, Begins [',', ']'] s → itemStop s) :
    Fills labelledPlace label.place label.place (Frame.labelled.list label lead write) id := by
  refine fills_listText (legibleList_bracket hitem hstop)
    (fun s _ => begins_cons (c := ']') (by decide) s) ?_
  intro a s _
  rw [String.toList_append, List.append_assoc, labelledPlace_opening]

theorem fills_labelled_selectors (label : Label) (lead : String)
    (hitem : Legible write (Begins selectorEnds)) :
    Fills labelledPlace label.place label.place (Frame.labelled.list label lead write) id :=
  fills_labelled_list label lead hitem (fun _ hs => hs.mono (by decide))

theorem fills_labelled_option (label : Label) (hitem : Legible write itemStop)
    (hstop : ∀ s, itemStop (']' :: s)) :
    Fills labelledPlace label.place label.place (Frame.labelled.option label write) id := by
  refine fills_optionalText ((hitem.tail "]" (fun s _ => hstop s)).lead _) ?_
  intro a s
  rw [String.toList_append, List.append_assoc, labelledPlace_opening]

theorem fills_labelled_flag (label : Label) (word : String) :
    Fills labelledPlace label.place label.place (Frame.labelled.flag label word) id := by
  refine fills_flag ?_
  intro s
  rw [String.toList_append, String.toList_append, List.append_assoc, List.append_assoc,
    labelledPlace_opening]

theorem CombinationKind.legible_name (stop : List Char → Prop) :
    Legible CombinationKind.name stop := by
  intro kind other s t _ _ h
  cases kind <;> cases other <;> simp_all [CombinationKind.name]

theorem fills_kindText : Fills labelledPlace 0 0 Rule.kindText Rule.tagged := by
  have hname := ((CombinationKind.legible_name (fun _ => True)).tail "]"
    (fun s (_ : 0 < labelledPlace s) => trivial)).lead " kind["
  have htag := fills_optionalText hname (fun kind s => by
    rw [String.toList_append, List.append_assoc]
    rfl)
  exact htag.comap Rule.tagged

end Fills

/-- What the labelled text of a rule tells, apart from the comment. -/
def Rule.labelledTold (rule : Rule) :=
  (Rule.tagged rule.kind, ((((((rule.always, rule.years), rule.dates), rule.weeks),
    (rule.holidays, rule.days)), rule.times), rule.modifier))

theorem fills_labelled_front :
    Fills labelledPlace 0 8
      (fun rule : Rule => Rule.kindText rule.kind ++ Frame.labelled.front rule)
      Rule.labelledTold := by
  have halways := (fills_labelled_flag .always "24/7").comap Rule.always
  have hyears := (fills_labelled_selectors .years "" YearRange.legible).comap Rule.years
  have hdates := (fills_labelled_list .dates "" DateRange.legible
    (fun s hs => ⟨hs.mono (by decide), noDay_of_begins (by decide) hs⟩)).comap Rule.dates
  have hweeks := (fills_labelled_selectors .weeks "week " WeekRange.legible).comap Rule.weeks
  have hholidays := (fills_labelled_list .holidays "" Holiday.legible
    (fun s hs => noShift_of_begins (by decide) hs)).comap Rule.holidays
  have hdays := (fills_labelled_selectors .days "" DayRange.legible).comap Rule.days
  have htimes := (fills_labelled_selectors .times "" TimeSpan.legible).comap Rule.times
  have hmodifier := (fills_labelled_option .modifier (Modifier.legible (fun _ => True))
    (fun _ => trivial)).comap Rule.modifier
  have hdaySelectors := hholidays.append hdays (by decide)
  have hfront := (((((halways.append hyears (by decide)).append hdates (by decide)).append hweeks
    (by decide)).append hdaySelectors (by decide)).append htimes (by decide)).append hmodifier
    (by decide)
  exact (fills_kindText.comap Rule.kind).append hfront (by decide)

end OpeningTimes

import Mathlib
import OpeningTimes.Command.Run
import OpeningTimes.Exchange
import OpeningTimes.Proofs.Grouping.Regrouping
import OpeningTimes.Proofs.Rule.RoundTrip

/-!
Groups that are written as JSON and used as input again.  Every inner list of the output is a text
of its own, and the rules of all inner lists in one list are grouped as they were.
-/

namespace OpeningTimes

open Json

def bracketed (content : String) : String :=
  "[" ++ content ++ "]"

theorem toList_bracketed (content : String) :
    (bracketed content).toList = '[' :: (content.toList ++ [']']) := by
  simp [bracketed]

/-- The text is a list of lists with these contents: between brackets the inner lists stand one
after the other, with commas between them and any blanks around them. -/
def IsListOfLists (text : String) (contents : List String) : Prop :=
  ∃ before body after : String, AllBlank before.toList ∧ AllBlank after.toList ∧
    text = before ++ bracketed body ++ after ∧
    Separated (fun content inner => inner = (bracketed content).toList) contents body.toList

/-- The output for groups is a list of lists with these contents and can be used as input: its
inner lists load as the groups, and the list that has the contents of all inner lists loads as the
rules of all groups.  Every text that loads so, and this list in particular, has the same output. -/
structure FeedsBack {ε : Type} (produce : String → Except ε String) (output : String)
    (contents : List String) (groups : List (List Rule)) : Prop where
  isListOfLists : IsListOfLists output contents
  inner : contents.map (fun content => rulesOfText (bracketed content)) = groups.map Except.ok
  joined : rulesOfText (bracketed (String.intercalate "," contents)) = .ok groups.flatten
  again : ∀ text, rulesOfText text = .ok groups.flatten → produce text = .ok output

/-- The content of an inner list lays the rules of a group out. -/
def LaysOut (content : String) (group : List Rule) : Prop :=
  Separated Laid (group.map Rule.toJson) content.toList

theorem LaysOut.rulesOfText {content : String} {group : List Rule}
    (hlays : LaysOut content group) : rulesOfText (bracketed content) = .ok group := by
  apply rulesOfText_of_laid
  rw [toList_bracketed]
  exact .list hlays

/-- The inner lists of a layout of groups. -/
theorem exists_inner_contents {groups : List (List Rule)} {body : List Char}
    (hgroups : Separated (fun group text => Laid (rulesJson group) text) groups body) :
    ∃ contents, Separated (fun content inner => inner = (bracketed content).toList) contents body ∧
      List.Forall₂ LaysOut contents groups := by
  have hinner : ∀ {group : List Rule} {text : List Char}, Laid (rulesJson group) text →
      ∃ content : String, text = (bracketed content).toList ∧ LaysOut content group := by
    intro group text hlaid
    obtain ⟨content, rfl, hcontent⟩ := hlaid.exists_separated
    refine ⟨String.ofList content, ?_, ?_⟩
    · rw [toList_bracketed, String.toList_ofList]
    · rwa [LaysOut, String.toList_ofList]
  induction hgroups with
  | nil hblanks => exact ⟨[], .nil hblanks, .nil⟩
  | last hbefore htext hafter =>
      obtain ⟨content, hcontent, hlays⟩ := hinner htext
      exact ⟨[content], .last hbefore hcontent hafter, .cons hlays .nil⟩
  | more hbefore htext hafter _ ih =>
      obtain ⟨content, hcontent, hlays⟩ := hinner htext
      obtain ⟨contents, hcontents, hall⟩ := ih
      cases hall with
      | cons hnext hrest =>
          exact ⟨_, .more hbefore hcontent hafter hcontents, .cons hlays (.cons hnext hrest)⟩

/-- The contents of the inner lists with commas between them lay the rules of all groups out. -/
theorem laysOut_intercalate {contents : List String} {groups : List (List Rule)}
    (hall : List.Forall₂ LaysOut contents groups) (hne : ∀ group ∈ groups, group ≠ []) :
    LaysOut (String.intercalate "," contents) groups.flatten := by
  induction hall with
  | nil => exact .nil allBlank_nil
  | @cons content group contents groups hlays hrest ih =>
      have hothers : ∀ other ∈ groups, other ≠ [] :=
        fun other hother => hne other (List.mem_cons_of_mem group hother)
      cases hrest with
      | nil => simpa [LaysOut] using hlays
      | @cons next later contents groups hnext hrest =>
          have hmore := ih hothers
          have hgroup : group.map Rule.toJson ≠ [] := by
            simpa using hne group List.mem_cons_self
          have hlater : (later :: groups).flatten.map Rule.toJson ≠ [] := by
            simp [hothers later List.mem_cons_self]
          have hjoined := Separated.append_comma hlays hgroup hmore hlater
          simpa [LaysOut, String.intercalate_cons_cons] using hjoined

theorem map_rulesOfText_bracketed {contents : List String} {groups : List (List Rule)}
    (hall : List.Forall₂ LaysOut contents groups) :
    contents.map (fun content => rulesOfText (bracketed content)) = groups.map Except.ok := by
  induction hall with
  | nil => rfl
  | cons hlays _ ih => rw [List.map_cons, List.map_cons, hlays.rulesOfText, ih]

/-- The text lays the groups out and may end in blanks. -/
def LaysOutGroups (groups : List (List Rule)) (text : String) : Prop :=
  ∃ body after : String, Laid (groupsJson groups) body.toList ∧ AllBlank after.toList ∧
    text = body ++ after

theorem laysOutGroups_of_laid {groups : List (List Rule)} {text : String}
    (hlaid : Laid (groupsJson groups) text.toList) : LaysOutGroups groups text :=
  ⟨text, "", hlaid, allBlank_nil, String.append_empty.symm⟩

theorem LaysOutGroups.exists_contents {groups : List (List Rule)} {text : String}
    (hlays : LaysOutGroups groups text) :
    ∃ contents, IsListOfLists text contents ∧ List.Forall₂ LaysOut contents groups := by
  obtain ⟨body, after, hlaid, hafter, rfl⟩ := hlays
  obtain ⟨inner, hbody, hinner⟩ := hlaid.exists_separated
  obtain ⟨contents, hcontents, hall⟩ := exists_inner_contents hinner.of_map
  have hbracketed : body = bracketed (String.ofList inner) := by
    rw [← String.toList_inj, hbody, toList_bracketed, String.toList_ofList]
  refine ⟨contents, ⟨"", String.ofList inner, after, allBlank_nil, hafter, ?_, ?_⟩, hall⟩
  · rw [hbracketed, String.empty_append]
  · rwa [String.toList_ofList]

/-- Whatever layout of its groups a text is turned into, the layout feeds back: the rules of the
groups in their new order have the same groups. -/
theorem exists_feedsBack {ε : Type} {produce : String → Except ε String}
    {write : List (List Rule) → String} (hwrite : ∀ groups, LaysOutGroups groups (write groups))
    (hproduce : ∀ text rules, rulesOfText text = .ok rules →
      produce text = .ok (write ((groupRules rules).value.map Group.rules)))
    (rules : List Rule) :
    ∃ contents, FeedsBack produce (write ((groupRules rules).value.map Group.rules)) contents
      ((groupRules rules).value.map Group.rules) := by
  obtain ⟨contents, hlists, hall⟩ :=
    (hwrite ((groupRules rules).value.map Group.rules)).exists_contents
  have hne : ∀ group ∈ (groupRules rules).value.map Group.rules, group ≠ [] := by
    intro group hgroup
    obtain ⟨group, -, rfl⟩ := List.mem_map.1 hgroup
    simp [Group.rules, Group.members_ne_nil]
  refine ⟨contents, hlists, map_rulesOfText_bracketed hall,
    (laysOut_intercalate hall hne).rulesOfText, ?_⟩
  intro text htext
  rw [hproduce text _ htext, Grouping.map_rules_regrouped]

theorem value_groupsOfText {text : String} {rules : List Rule}
    (hload : rulesOfText text = .ok rules) :
    (groupsOfText text).value =
      .ok (groupsJson ((groupRules rules).value.map Group.rules)).compact := by
  simp [groupsOfText, loadRules, hload]

open Command

theorem value_convert {invocation : Invocation} (htask : invocation.task = .groups)
    (hjson : invocation.inner.json = true) {text : String} {rules : List Rule}
    (hload : rulesOfText text = .ok rules) :
    (invocation.convert text).value =
      .ok ((groupsJson ((groupRules rules).value.map Group.rules)).pretty 0) := by
  simp [Invocation.convert, loadRules, hload, Invocation.answer, htask, hjson, groupsText]

/-- What the command prints for a text at its standard input when it is asked for groups as
JSON. -/
def printedGroups (setting : Option String) (text : String) : Except String String :=
  let outcome := (run Folder.host setting ["groups", "--json"] { input := text.toUTF8 }).1
  if outcome.status = 0 then .ok outcome.stdout else .error outcome.stderr

theorem printedGroups_eq (setting : Option String) {text : String} {rules : List Rule}
    (hload : rulesOfText text = .ok rules) :
    printedGroups setting text =
      .ok ((groupsJson ((groupRules rules).value.map Group.rules)).pretty 0 ++ "\n") := by
  have harguments : Invocation.ofArguments ["groups", "--json"] =
      .ok ⟨.groups, {}, { json := true }⟩ := by cbv
  have htext : String.fromUTF8? text.toUTF8 = some text := by
    simp [String.fromUTF8?, text.isValidUTF8, String.fromUTF8]
  have hanswer : (Invocation.convert ⟨.groups, {}, { json := true }⟩ text).value = _ :=
    value_convert rfl rfl hload
  have hresult : (run Folder.host setting ["groups", "--json"] { input := text.toUTF8 }).1 =
      Outcome.ofResult (LogSetting.ofText (setting.getD "")) (Invocation.filter
          ⟨.groups, {}, { json := true }⟩ (LogSetting.ofText (setting.getD "")))
        ⟨.ok ((groupsJson ((groupRules rules).value.map Group.rules)).pretty 0 ++ "\n"),
          (Invocation.convert ⟨.groups, {}, { json := true }⟩ text).records⟩ := by
    simp only [run, harguments, Invocation.perform, readInput, Folder.host, bind, StateT.bind,
      get, getThe, MonadStateOf.get, StateT.get, pure, StateT.pure, htext, hanswer, writeOutput]
  rw [printedGroups, hresult]
  rfl

/-- The groups of every loadable text feed back: as JSON without blanks, as the JSON that the
command computes for its output, and as what it prints. -/
theorem groups_feed_back (text : String) (rules : List Rule)
    (hload : rulesOfText text = .ok rules) :
    let groups := (groupRules rules).value.map Group.rules
    ((groupsOfText text).value = .ok (groupsJson groups).compact ∧
      ∃ contents, FeedsBack (fun text => (groupsOfText text).value) (groupsJson groups).compact
        contents groups) ∧
    (∀ invocation : Invocation, invocation.task = .groups → invocation.inner.json = true →
      (invocation.convert text).value = .ok ((groupsJson groups).pretty 0) ∧
      ∃ contents, FeedsBack (fun text => (invocation.convert text).value)
        ((groupsJson groups).pretty 0) contents groups) ∧
    ∀ setting : Option String,
      printedGroups setting text = .ok ((groupsJson groups).pretty 0 ++ "\n") ∧
      ∃ contents, FeedsBack (printedGroups setting) ((groupsJson groups).pretty 0 ++ "\n")
        contents groups := by
  intro groups
  refine ⟨⟨value_groupsOfText hload, ?_⟩, fun invocation htask hjson =>
    ⟨value_convert htask hjson hload, ?_⟩, fun setting => ⟨printedGroups_eq setting hload, ?_⟩⟩
  · exact exists_feedsBack (fun groups => laysOutGroups_of_laid (laid_compact (groupsJson groups)))
      (fun _ _ hload => value_groupsOfText hload) rules
  · exact exists_feedsBack
      (fun groups => laysOutGroups_of_laid (laid_pretty 0 (groupsJson groups)))
      (fun _ _ hload => value_convert htask hjson hload) rules
  · -- The command ends its output with a line break of its own.
    have hbreak : AllBlank "\n".toList := by simp [AllBlank, isBlank]
    exact exists_feedsBack
      (fun groups => ⟨_, "\n", laid_pretty 0 (groupsJson groups), hbreak, rfl⟩)
      (fun _ _ hload => printedGroups_eq setting hload) rules

/-- The third of these rules joins the first, so the rules of the groups stand in another order
than in the text. -/
theorem groups_feed_back_reordered :
    let rules : List Rule := [{ modifier := some .off }, { days := [⟨.monday, none, []⟩] },
      { modifier := some .off, times := [{ start := 480 }] }]
    let groups : List (List Rule) :=
      [[{ modifier := some .off }, { modifier := some .off, times := [{ start := 480 }] }],
        [{ days := [⟨.monday, none, []⟩] }]]
    rulesOfText (rulesJson rules).compact = .ok rules ∧
      ∃ contents, FeedsBack (printedGroups none) ((groupsJson groups).pretty 0 ++ "\n")
        contents groups := by
  intro rules groups
  have hload : rulesOfText (rulesJson rules).compact = .ok rules :=
    rulesOfText_of_laid rules (laid_compact (rulesJson rules))
  exact ⟨hload, (groups_feed_back _ rules hload).2.2 none |>.2⟩

end OpeningTimes

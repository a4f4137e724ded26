import Mathlib
import OpeningTimes.Proofs.Command.Effects
import OpeningTimes.Proofs.Command.Requests
import OpeningTimes.Proofs.Log.Setting

/-!
Logging has no say in what a run of the command does.  All log records of a run are fixed by its
input and its other options; the setting and the options for logging decide which are shown.
-/

namespace OpeningTimes

def Level.heading : Level → String
  | .error => "[ERROR "
  | .warn => "[WARN  "
  | .info => "[INFO  "
  | .debug => "[DEBUG "
  | .trace => "[TRACE "

/-- A text without control characters. -/
def Plain (s : String) : Prop :=
  ∀ c ∈ s.toList, 0x20 ≤ c.toNat ∧ c ≠ '\x7f'

theorem indented_of_plain {s : String} (hplain : Plain s) (margin : String) :
    Text.indented margin s = s := by
  have hkeep : ∀ c ∈ s.toList,
      (if c = '\n' then '\n' :: margin.toList else [c]) = [c] := by
    intro c hc
    refine if_neg ?_
    rintro rfl
    exact absurd (hplain _ hc).1 (by decide)
  rw [Text.indented, List.flatMap_congr hkeep, List.flatMap_singleton', String.ofList_toList]

theorem isShown_of_plain {s : String} (hplain : Plain s) {c : Char} (hc : c ∈ s.toList) :
    Text.isShown c = true := by
  simp [Text.isShown, hplain c hc]

/-- The line of a record without control characters starts with its level and its target, and holds
its text as it is. -/
theorem LogRecord.line_of_plain {record : LogRecord} (htarget : Plain record.target)
    (htext : Plain record.text) :
    record.line = record.level.heading ++ record.target ++ "] " ++ record.text ++ "\n" := by
  have hheading : "[" ++ record.level.padded ++ " " = record.level.heading := by
    cases record.level <;> rfl
  have hshown : ∀ c ∈ record.level.heading.toList, Text.isShown c = true := by
    cases record.level <;> simp [Level.heading, Text.isShown]
  have hline : ∀ c ∈ (record.level.heading ++ record.target ++ "] " ++ record.text ++ "\n").toList,
      Text.isShown c = true := by
    simp only [String.toList_append, List.mem_append]
    rintro c ((((hc | hc) | hc) | hc) | hc)
    · exact hshown c hc
    · exact isShown_of_plain htarget hc
    · revert c
      simp [Text.isShown]
    · exact isShown_of_plain htext hc
    · revert c
      simp [Text.isShown, Text.isLayout]
  rw [line, indented_of_plain htext, hheading, Text.withoutSteering,
    Text.keptFrom_outside_eq_self hline, String.ofList_toList]

namespace Command

/-- The lines of log records. -/
def linesText (records : List LogRecord) : String :=
  String.join (records.map LogRecord.line)

/-- An outcome with some text before all else that goes to the standard error stream. -/
def Outcome.after (text : String) (outcome : Outcome) : Outcome :=
  { outcome with stderr := text ++ outcome.stderr }

/-- What the user sees of a task that has been carried out, apart from logging. -/
def Outcome.bare : Except Failure String → Outcome
  | .ok text => ⟨0, text, ""⟩
  | .error failure => ⟨1, "", failure.text⟩

/-- All that a run does: what the user sees of it apart from logging, the log records that it
writes, whether they are shown or not, and the state that it ends in. -/
structure Course (σ : Type) where
  outcome : Outcome
  records : List LogRecord
  final : σ

def Course.of {σ : Type} (host : Host (StateM σ)) (start : σ) (arguments : List String) :
    Course σ :=
  match Invocation.ofArguments arguments with
  | .error stop => ⟨stop.outcome, [], start⟩
  | .ok invocation =>
      let (result, final) := (invocation.perform host).run start
      ⟨.bare result.value, result.records, final⟩

theorem Outcome.ofResult_eq (setting : LogSetting) (filter : LogFilter)
    (result : Logged (Except Failure String)) :
    ofResult setting filter result = (bare result.value).after
      (setting.warnings ++ linesText (result.records.filter filter.shows)) := by
  cases hvalue : result.value <;>
    simp [ofResult, bare, after, hvalue, LogFilter.shownLines, linesText]

/-- A filter whose general threshold makes way for what is asked for. -/
def Request.filter (request : Request) (filter : LogFilter) : LogFilter :=
  { filter with general := request.threshold?.getD filter.general }

theorem filter_of_ofArguments {arguments : List String} {invocation : Invocation}
    (harguments : Invocation.ofArguments arguments = .ok invocation) (setting : LogSetting) :
    invocation.filter setting = (Request.ofArguments arguments).filter setting.filter := by
  rw [Request.filter, ← threshold?_of_ofArguments harguments, Invocation.filter]
  cases invocation.threshold? <;> rfl

/-- The targets of a filter decide about a target, or else its general threshold does. -/
theorem threshold_cases (filter : LogFilter) (target : String) :
    (∀ general, LogFilter.threshold { filter with general := general } target = general) ∨
      ∃ threshold, ∀ general,
        LogFilter.threshold { filter with general := general } target = threshold := by
  simp only [LogFilter.threshold_general]
  cases filter.matching target with
  | nil => exact Or.inl fun general => rfl
  | cons first rest => exact Or.inr ⟨(rest.foldl LogFilter.longer first).2, fun general => rfl⟩

theorem shows_of_moreVerbose {fewer more : Request} (hmore : fewer.MoreVerbose more)
    (filter : LogFilter) {record : LogRecord}
    (hshows : (fewer.filter filter).shows record = true) :
    (more.filter filter).shows record = true := by
  rw [Request.filter, LogFilter.shows, Bool.and_eq_true] at hshows ⊢
  refine ⟨?_, hshows.2⟩
  rcases threshold_cases filter record.target with hgeneral | ⟨threshold, htarget⟩
  · rw [hgeneral] at hshows ⊢
    exact Request.shows_of_moreVerbose hmore _ hshows.1
  · rw [htarget] at hshows ⊢
    exact hshows.1

/-- Arguments that make sense take the course that they take without the options for logging. -/
theorem Course.of_withoutLogging {σ : Type} (host : Host (StateM σ)) (start : σ)
    {arguments : List String} (hsense : Invocation.ofArguments arguments ≠ .error .usage) :
    Course.of host start (withoutLogging arguments) = Course.of host start arguments := by
  unfold Course.of
  rw [ofArguments_withoutLogging hsense]
  cases Invocation.ofArguments arguments with
  | error stop => rfl
  | ok invocation => rfl

/-- What a run says about its setting, which is not even read when no task is carried out. -/
def complaints (setting : Option String) (arguments : List String) : String :=
  match Invocation.ofArguments arguments with
  | .error _ => ""
  | .ok _ => (LogSetting.ofText (setting.getD "")).warnings

theorem complaints_withoutLogging (setting : Option String) {arguments : List String}
    (hsense : Invocation.ofArguments arguments ≠ .error .usage) :
    complaints setting (withoutLogging arguments) = complaints setting arguments := by
  unfold complaints
  rw [ofArguments_withoutLogging hsense]
  cases Invocation.ofArguments arguments with
  | error stop => rfl
  | ok invocation => rfl

theorem complaints_of_listsEntries {entries : List SettingEntry} {setting : Option String}
    (hsetting : ListsEntries entries setting) (arguments : List String) :
    complaints setting arguments = "" := by
  unfold complaints
  rw [LogSetting.ofText_of_listsEntries hsetting]
  cases Invocation.ofArguments arguments with
  | error stop => rfl
  | ok invocation => rfl

/-- The log records that are shown of all that a run writes. -/
def selected (setting : Option String) (arguments : List String) (records : List LogRecord) :
    List LogRecord :=
  records.filter
    ((Request.ofArguments arguments).filter (LogSetting.ofText (setting.getD "")).filter).shows

/-- The threshold for each target decides alone when the setting lists entries. -/
theorem selected_of_listsEntries {entries : List SettingEntry} {setting : Option String}
    (hsetting : ListsEntries entries setting) (arguments : List String) :
    ∃ threshold : String → Threshold,
      (∀ target level, InForce entries (Request.ofArguments arguments).threshold? target level ↔
        level = threshold target) ∧
      ∀ records, selected setting arguments records =
        records.filter fun record => record.level ∈ (threshold record.target).levels := by
  refine ⟨_, LogFilter.inForce_iff entries (Request.ofArguments arguments).threshold?, ?_⟩
  intro records
  have hpattern : ((Request.ofArguments arguments).filter (.ofEntries entries)).pattern = none :=
    LogFilter.pattern_ofEntries entries
  rw [selected, LogSetting.ofText_of_listsEntries hsetting]
  refine List.filter_congr fun record _ => ?_
  rw [LogFilter.shows_of_pattern_eq_none hpattern, Threshold.shows_eq_mem_levels]
  rfl

theorem selected_sublist_of_moreVerbose {fewer more : List String}
    (hmore : (Request.ofArguments fewer).MoreVerbose (Request.ofArguments more))
    (setting : Option String) (records : List LogRecord) :
    (selected setting fewer records).Sublist (selected setting more records) :=
  List.monotone_filter_right _ fun _ hshows => shows_of_moreVerbose hmore _ hshows

/-- Before all else a run complains about its setting and shows a selection of its log records. -/
theorem run_eq_course {σ : Type} (host : Host (StateM σ)) (start : σ) (setting : Option String)
    (arguments : List String) :
    (run host setting arguments).run start =
      ((Course.of host start arguments).outcome.after (complaints setting arguments ++
        linesText (selected setting arguments (Course.of host start arguments).records)),
        (Course.of host start arguments).final) := by
  cases harguments : Invocation.ofArguments arguments with
  | error stop =>
      rw [run_of_stop harguments]
      simp [Course.of, complaints, selected, harguments, Outcome.after, linesText]
  | ok invocation =>
      cases hresult : (invocation.perform host).run start with
      | mk result final =>
      rw [run_of_invocation harguments hresult, Outcome.ofResult_eq,
        filter_of_ofArguments harguments]
      simp only [Course.of, complaints, selected, harguments, hresult]

/-- Logging has no say in what runs do.  For arguments that differ only in the options for logging
there is one course: one outcome, one final state and one list of log records.  Of these, the
records are shown whose levels the thresholds in force for their targets let through, and nothing
else depends on the setting or the options.  Whatever the setting is, asking for more of the
logging that was asked for removes no record. -/
theorem run_shows_selection {σ : Type} (host : Host (StateM σ)) (start : σ) (plain : List String) :
    ∃ course : Course σ,
      (∀ arguments, withoutLogging arguments = plain →
        Invocation.ofArguments arguments ≠ .error .usage →
        Course.of host start arguments = course ∧
          ∀ setting entries, ListsEntries entries setting →
            ∃ threshold : String → Threshold,
              (∀ target level, InForce entries (Request.ofArguments arguments).threshold? target
                level ↔ level = threshold target) ∧
              (run host setting arguments).run start =
                (course.outcome.after (linesText (course.records.filter fun record =>
                  record.level ∈ (threshold record.target).levels)), course.final)) ∧
      (∀ fewer more setting, withoutLogging fewer = plain → withoutLogging more = plain →
        Invocation.ofArguments fewer ≠ .error .usage → Invocation.ofArguments more ≠ .error .usage →
        (Request.ofArguments fewer).MoreVerbose (Request.ofArguments more) →
        ∃ warnings shown all, shown.Sublist all ∧ all.Sublist course.records ∧
          (run host setting fewer).run start =
            (course.outcome.after (warnings ++ linesText shown), course.final) ∧
          (run host setting more).run start =
            (course.outcome.after (warnings ++ linesText all), course.final)) ∧
      ∀ record ∈ course.records, Plain record.target → Plain record.text →
        record.line = record.level.heading ++ record.target ++ "] " ++ record.text ++ "\n" := by
  have hcourse : ∀ arguments, withoutLogging arguments = plain →
      Invocation.ofArguments arguments ≠ .error .usage →
      Course.of host start arguments = Course.of host start plain := by
    rintro arguments rfl hsense
    exact (Course.of_withoutLogging host start hsense).symm
  refine ⟨Course.of host start plain, ?_, ?_, ?_⟩
  · intro arguments hplain hsense
    refine ⟨hcourse arguments hplain hsense, ?_⟩
    intro setting entries hsetting
    obtain ⟨threshold, hforce, hselected⟩ := selected_of_listsEntries hsetting arguments
    refine ⟨threshold, hforce, ?_⟩
    rw [run_eq_course, hcourse arguments hplain hsense, complaints_of_listsEntries hsetting,
      hselected, String.empty_append]
  · intro fewer more setting hfewer hmore hfewerSense hmoreSense hverbose
    have hcomplaints : complaints setting fewer = complaints setting more := by
      rw [← complaints_withoutLogging setting hfewerSense, hfewer, ← hmore,
        complaints_withoutLogging setting hmoreSense]
    refine ⟨complaints setting more, selected setting fewer _, selected setting more _,
      selected_sublist_of_moreVerbose hverbose setting _, List.filter_sublist, ?_, ?_⟩
    · rw [run_eq_course, hcourse fewer hfewer hfewerSense, hcomplaints]
    · rw [run_eq_course, hcourse more hmore hmoreSense]
  · exact fun record _ => LogRecord.line_of_plain

/-- A run that is told to be quiet and one that is not agree in all but the records shown, and a
second request for more logging removes none.  Help stays help. -/
theorem run_shows_selection_render :
    let start : Folder := { input := "[]".toUTF8 }
    let done := fun setting arguments => (run Folder.host setting arguments).run start
    let quiet := done (some "debug,ohfmt=Trace") ["-q", "render"]
    let loud := done none ["render", "-vvv"]
    (quiet.1.status = loud.1.status ∧ quiet.1.stdout = loud.1.stdout ∧ quiet.2 = loud.2) ∧
      (∃ before shown all after, shown.Sublist all ∧
        (done (some "a/b") ["-v", "render"]).1.stderr = before ++ linesText shown ++ after ∧
        (done (some "a/b") ["-vv", "render"]).1.stderr = before ++ linesText all ++ after) ∧
      done none ["render", "-qh"] = done (some "off") ["-v", "render", "-h"] := by
  intro start done quiet loud
  obtain ⟨course, hview, hmore, -⟩ := run_shows_selection Folder.host start ["render"]
  obtain ⟨help, hhelp, -⟩ := run_shows_selection Folder.host start ["render", "-h"]
  have hentries : ListsEntries [.general (.upTo .debug), .target "ohfmt" (.upTo .trace)]
      (some "debug,ohfmt=Trace") :=
    ⟨["debug".toList, "ohfmt=Trace".toList], by decide, .cons (.general (by decide))
      (.cons (.target (by simp) (by decide)) .nil)⟩
  have hoff : ListsEntries [.general .off] (some "off") :=
    ⟨["off".toList], by decide, .cons (.general (by decide)) .nil⟩
  have hunset : ListsEntries [] none := ⟨[], rfl, .nil⟩
  obtain ⟨_, -, hquiet⟩ := (hview ["-q", "render"] (by cbv) (by decide +kernel)).2 _ _ hentries
  obtain ⟨_, -, hloud⟩ := (hview ["render", "-vvv"] (by cbv) (by decide +kernel)).2 _ _ hunset
  obtain ⟨before, shown, all, hsublist, -, hfewer, hlouder⟩ :=
    hmore ["-v", "render"] ["-vv", "render"] (some "a/b") (by cbv) (by cbv) (by decide +kernel)
      (by decide +kernel) ⟨by decide +kernel, Or.inl (by decide +kernel)⟩
  obtain ⟨hcourse, hshown⟩ := hhelp ["render", "-qh"] (by cbv) (by decide +kernel)
  obtain ⟨_, -, hhelpFirst⟩ := hshown _ _ hunset
  obtain ⟨_, -, hhelpSecond⟩ :=
    (hhelp ["-v", "render", "-h"] (by cbv) (by decide +kernel)).2 _ _ hoff
  have hrecords : help.records = [] := by
    rw [← hcourse]
    decide +kernel
  refine ⟨?_, ⟨before, shown, all, course.outcome.stderr, hsublist, ?_, ?_⟩, ?_⟩
  · simp only [quiet, loud, done, hquiet, hloud, and_true]
    exact ⟨rfl, rfl⟩
  · simp only [done, hfewer]
    rfl
  · simp only [done, hlouder]
    rfl
  · simp only [done, hhelpFirst, hhelpSecond, hrecords]
    rfl

end Command

end OpeningTimes

import Mathlib
import OpeningTimes.Command.Run

/-!
What a run of the command does to files.  Everything is read and computed before anything is
written, so a run that fails leaves all files as they were, and a run that succeeds changes the
file that it was told to write and no other.
-/

namespace OpeningTimes.Command

/-- A host whose state holds a standard input and files by name.  Reading changes nothing, and a
write happens whole or fails without effect. -/
structure Disk (σ : Type) where
  host : Host (StateM σ)
  input : σ → ByteArray
  content? : σ → String → Option ByteArray
  /-- The name of the file that a path leads to. -/
  fileAt : String → String
  readInput_eq : ∀ state, host.readInput.run state = (input state, state)
  readFile_cases : ∀ path state,
    (∃ error, (host.readFile path).run state = (.error error, state)) ∨
      ∃ content, content? state (fileAt path) = some content ∧
        (host.readFile path).run state = (.ok content, state)
  writeFile_cases : ∀ path content state,
    (∃ error, (host.writeFile path content).run state = (.error error, state)) ∨
      ∃ after, (host.writeFile path content).run state = (.ok (), after) ∧
        content? after = Function.update (content? state) (fileAt path) (some content)

def Folder.fileAt (path : String) : String :=
  match target path with
  | .file name => name
  | _ => path

theorem Folder.content?_put (folder : Folder) (name : String) (content : ByteArray) :
    (folder.put name content).content? = Function.update folder.content? name (some content) := by
  funext other
  by_cases hname : other = name
  · rw [hname, Function.update_self]
    exact lookup_putFile_self name content folder.files
  · rw [Function.update_of_ne hname]
    exact lookup_putFile_of_ne hname content folder.files

theorem Folder.read_cases (folder : Folder) (path : String) :
    (∃ error, folder.read path = .error error) ∨
      ∃ content, folder.content? (fileAt path) = some content ∧
        folder.read path = .ok content := by
  unfold read fileAt
  cases target path with
  | nothing => exact Or.inl ⟨_, rfl⟩
  | directory => exact Or.inl ⟨_, rfl⟩
  | below name => exact Or.inl ⟨_, rfl⟩
  | file name =>
      simp only
      cases folder.content? name with
      | none => exact Or.inl ⟨_, rfl⟩
      | some content => exact Or.inr ⟨content, rfl, rfl⟩

theorem Folder.write_cases (folder : Folder) (path : String) (content : ByteArray) :
    (∃ error, folder.write path content = .error error) ∨
      ∃ after, folder.write path content = .ok after ∧
        after.content? = Function.update folder.content? (fileAt path) (some content) := by
  unfold write fileAt
  cases target path with
  | nothing => exact Or.inl ⟨_, rfl⟩
  | directory => exact Or.inl ⟨_, rfl⟩
  | below name => exact Or.inl ⟨_, rfl⟩
  | file name => exact Or.inr ⟨_, rfl, folder.content?_put name content⟩

/-- A step with a known result hands it on to what comes next. -/
theorem run_bind_of_run {σ α β : Type} {first : StateM σ α} {next : α → StateM σ β}
    {start after : σ} {value : α} (hfirst : first.run start = (value, after)) :
    (first >>= next).run start = (next value).run after := by
  rw [StateT.run_bind, hfirst]
  rfl

/-- A folder in memory is a disk. -/
def Folder.disk : Disk Folder where
  host := Folder.host
  input := Folder.input
  content? := Folder.content?
  fileAt := Folder.fileAt
  readInput_eq := fun _ => rfl
  readFile_cases := by
    intro path folder
    rcases folder.read_cases path with ⟨error, hread⟩ | ⟨content, hcontent, hread⟩
    · exact Or.inl ⟨error, congrArg (·, folder) hread⟩
    · exact Or.inr ⟨content, hcontent, congrArg (·, folder) hread⟩
  writeFile_cases := by
    intro path content folder
    have hget : (get : StateM Folder Folder).run folder = (folder, folder) := rfl
    rcases folder.write_cases path content with ⟨error, hwrite⟩ | ⟨after, hwrite, hcontent⟩
    · refine Or.inl ⟨error, ?_⟩
      simp only [host, run_bind_of_run hget, hwrite]
      rfl
    · refine Or.inr ⟨after, ?_, hcontent⟩
      simp only [host, run_bind_of_run hget, hwrite]
      rfl

/-- The text that a task gives for the content of its input, which has to be the text of a JSON
list of rules. -/
def Task.answerFor (task : Task) (style : Style) (json : Bool) (content : ByteArray) :
    Option String := do
  let text ← String.fromUTF8? content
  let rules ← (rulesOfText text).toOption
  match task with
  | .render => some (renderText style rules).value
  | .groups => some (groupsText json style rules).value
  | .months => none

namespace Disk

variable {σ : Type} (disk : Disk σ)

/-- What an invocation reads: a file if one is named, and else the standard input. -/
def source? (state : σ) : Option String → Option ByteArray
  | none => some (disk.input state)
  | some path => disk.content? state (disk.fileAt path)

/-- A text is left where the invocation wants it.  It goes to the standard output with a line
break if no file is named, and then no file changes; else it becomes the content of that file,
nothing goes to the standard output and no other file changes. -/
def Delivers (output : Option String) (text : String) (start : σ) (stdout : String)
    (final : σ) : Prop :=
  match output with
  | none => stdout = text ++ "\n" ∧ disk.content? final = disk.content? start
  | some path =>
      stdout = "" ∧
        disk.content? final =
          Function.update (disk.content? start) (disk.fileAt path) (some text.toUTF8)

/-- Delivering a text changes no file but the one it is delivered to. -/
theorem changed_of_delivers {disk : Disk σ} {output : Option String} {text stdout : String}
    {start final : σ} (hdelivers : disk.Delivers output text start stdout final) {name : String}
    (hname : disk.content? final name ≠ disk.content? start name) :
    ∃ path, output = some path ∧ disk.fileAt path = name := by
  cases output with
  | none => exact absurd (congrFun hdelivers.2 name) hname
  | some path =>
      refine ⟨path, rfl, ?_⟩
      by_contra hother
      refine hname ?_
      rw [hdelivers.2, Function.update_of_ne (Ne.symm hother)]

/-- Reading the input changes nothing and shows the content of the source. -/
theorem readInput_cases (path : Option String) (state : σ) :
    (∃ failure, (readInput disk.host path).run state = (.error failure, state)) ∨
      ∃ content text, disk.source? state path = some content ∧
        String.fromUTF8? content = some text ∧
        (readInput disk.host path).run state = (.ok text, state) := by
  cases path with
  | none =>
      have hread := disk.readInput_eq state
      cases htext : String.fromUTF8? (disk.input state) with
      | none =>
          refine Or.inl ⟨.unreadableInput, ?_⟩
          simp only [readInput, run_bind_of_run hread, htext]
          rfl
      | some text =>
          refine Or.inr ⟨disk.input state, text, rfl, htext, ?_⟩
          simp only [readInput, run_bind_of_run hread, htext]
          rfl
  | some path =>
      rcases disk.readFile_cases path state with ⟨error, hread⟩ | ⟨content, hcontent, hread⟩
      · refine Or.inl ⟨.unreadableFile path error, ?_⟩
        simp only [readInput, run_bind_of_run hread]
        rfl
      · cases htext : String.fromUTF8? content with
        | none =>
            refine Or.inl ⟨.unreadableFile path .notText, ?_⟩
            simp only [readInput, run_bind_of_run hread, htext]
            rfl
        | some text =>
            refine Or.inr ⟨content, text, hcontent, htext, ?_⟩
            simp only [readInput, run_bind_of_run hread, htext]
            rfl

/-- Writing the output delivers the text or fails without effect. -/
theorem writeOutput_cases (path : Option String) (text : String) (state : σ) :
    (∃ failure, (writeOutput disk.host path text).run state = (.error failure, state)) ∨
      ∃ stdout final, (writeOutput disk.host path text).run state = (.ok stdout, final) ∧
        disk.Delivers path text state stdout final := by
  cases path with
  | none => exact Or.inr ⟨text ++ "\n", state, rfl, rfl, rfl⟩
  | some path =>
      rcases disk.writeFile_cases path text.toUTF8 state with
        ⟨error, hwrite⟩ | ⟨final, hwrite, hcontent⟩
      · refine Or.inl ⟨.unwritableFile path error, ?_⟩
        simp only [writeOutput, run_bind_of_run hwrite]
        rfl
      · refine Or.inr ⟨"", final, ?_, rfl, hcontent⟩
        simp only [writeOutput, run_bind_of_run hwrite]
        rfl

end Disk

/-- A text is converted to the answer that the task has for it, or refused. -/
theorem convert_cases (invocation : Invocation) (htask : invocation.task ≠ .months)
    {content : ByteArray} {text : String} (htext : String.fromUTF8? content = some text) :
    (∃ failure, (invocation.convert text).value = .error failure) ∨
      ∃ answer, (invocation.convert text).value = .ok answer ∧
        invocation.task.answerFor invocation.style invocation.inner.json content
          = some answer := by
  cases hload : rulesOfText text with
  | error error => exact Or.inl ⟨.badRules error, by simp [Invocation.convert, loadRules, hload]⟩
  | ok rules =>
      refine Or.inr ⟨(invocation.answer rules).value, ?_, ?_⟩
      · simp [Invocation.convert, loadRules, hload]
      · cases hkind : invocation.task with
        | render => simp [Task.answerFor, htext, hload, Except.toOption, Invocation.answer, hkind]
        | groups => simp [Task.answerFor, htext, hload, Except.toOption, Invocation.answer, hkind]
        | months => exact absurd hkind htask

/-- A task that works on rules reads its input, converts it, and only then writes. -/
theorem perform_of_ne_months {m : Type → Type} [Monad m] {host : Host m} {invocation : Invocation}
    (htask : invocation.task ≠ .months) :
    invocation.perform host = (do
      match ← readInput host invocation.inner.input with
      | .error failure => pure ⟨.error failure, []⟩
      | .ok text =>
          match (invocation.convert text).value with
          | .error failure => pure ⟨.error failure, (invocation.convert text).records⟩
          | .ok answer => do
              let written ← writeOutput host invocation.inner.output answer
              pure ⟨written, (invocation.convert text).records⟩) := by
  unfold Invocation.perform
  split
  · next hmonths => exact absurd hmonths htask
  · rfl

/-- A run whose arguments make sense ends as carrying its task out ends. -/
theorem run_of_invocation {σ : Type} {host : Host (StateM σ)} {setting : Option String}
    {arguments : List String} {invocation : Invocation}
    (harguments : Invocation.ofArguments arguments = .ok invocation)
    {start final : σ} {result : Logged (Except Failure String)}
    (hperform : (invocation.perform host).run start = (result, final)) :
    (run host setting arguments).run start =
      (Outcome.ofResult (LogSetting.ofText (setting.getD ""))
        (invocation.filter (LogSetting.ofText (setting.getD ""))) result, final) := by
  simp only [run, harguments, run_bind_of_run hperform]
  rfl

/-- A run without an invocation leaves everything as it is. -/
theorem run_of_stop {σ : Type} {host : Host (StateM σ)} {setting : Option String}
    {arguments : List String} {stop : Stop}
    (harguments : Invocation.ofArguments arguments = .error stop) (start : σ) :
    (run host setting arguments).run start = (stop.outcome, start) := by
  simp only [run, harguments]
  rfl

/-- Only arguments that make no sense are a failure without a task, and nothing is printed then. -/
theorem Stop.outcome_cases (stop : Stop) :
    (stop = .usage ∧ stop.outcome.status ≠ 0 ∧ stop.outcome.stdout = "") ∨
      (stop ≠ .usage ∧ stop.outcome.status = 0) := by
  cases stop with
  | usage => exact Or.inl ⟨rfl, by decide, rfl⟩
  | version => exact Or.inr ⟨by simp, rfl⟩
  | help topic => exact Or.inr ⟨by simp, rfl⟩

section Runs

variable {σ : Type} (disk : Disk σ)

/-- All that carrying a task out can come to: it fails and no file has changed, or it lists the
months, or it delivers the answer for the content of its source. -/
theorem perform_cases (invocation : Invocation) (start : σ) :
    (∃ failure records, (invocation.perform disk.host).run start
        = (⟨.error failure, records⟩, start)) ∨
      (invocation.task = .months ∧ (invocation.perform disk.host).run start
        = (⟨.ok (monthsText ++ "\n"), []⟩, start)) ∨
      invocation.task ≠ .months ∧ ∃ stdout records final content answer,
        (invocation.perform disk.host).run start = (⟨.ok stdout, records⟩, final) ∧
          disk.source? start invocation.inner.input = some content ∧
          invocation.task.answerFor invocation.style invocation.inner.json content
            = some answer ∧
          disk.Delivers invocation.inner.output answer start stdout final := by
  by_cases htask : invocation.task = .months
  · refine Or.inr (Or.inl ⟨htask, ?_⟩)
    rw [Invocation.perform, htask]
    rfl
  · rw [perform_of_ne_months htask]
    rcases disk.readInput_cases invocation.inner.input start with
      ⟨failure, hread⟩ | ⟨content, text, hsource, htext, hread⟩
    · exact Or.inl ⟨failure, [], by rw [run_bind_of_run hread]; rfl⟩
    · rcases convert_cases invocation htask htext with
        ⟨failure, hconvert⟩ | ⟨answer, hconvert, hanswer⟩
      · refine Or.inl ⟨failure, (invocation.convert text).records, ?_⟩
        simp only [run_bind_of_run hread, hconvert]
        rfl
      · rcases disk.writeOutput_cases invocation.inner.output answer start with
          ⟨failure, hwrite⟩ | ⟨stdout, final, hwrite, hdelivers⟩
        · refine Or.inl ⟨failure, (invocation.convert text).records, ?_⟩
          simp only [run_bind_of_run hread, hconvert, run_bind_of_run hwrite]
          rfl
        · refine Or.inr (Or.inr ⟨htask, stdout, (invocation.convert text).records, final, content,
            answer, ?_, hsource, hanswer, hdelivers⟩)
          simp only [run_bind_of_run hread, hconvert, run_bind_of_run hwrite]
          rfl

/-- What a run may do, by its outcome and the state it ends in. -/
structure Disk.AllOrNothing (arguments : List String) (start : σ) (outcome : Outcome) (final : σ) :
    Prop where
  /-- A run that fails prints nothing and changes no file. -/
  failing : outcome.status ≠ 0 →
    outcome.stdout = "" ∧ disk.content? final = disk.content? start
  /-- No file changes but the one that the run was told to write. -/
  changing : ∀ name, disk.content? final name ≠ disk.content? start name →
    ∃ invocation path, Invocation.ofArguments arguments = .ok invocation ∧
      invocation.inner.output = some path ∧ disk.fileAt path = name
  /-- A run that carries no task out, for it only gives help or the version or its arguments make no
  sense, leaves everything as it is; it fails in the last case only. -/
  idle : ∀ stop, Invocation.ofArguments arguments = .error stop →
    final = start ∧ (outcome.status ≠ 0 ↔ stop = .usage)
  /-- When its task works on rules, a run that succeeds delivers the text that the task has for the
  content of its source, be that the standard input or a file. -/
  succeeding : ∀ invocation, Invocation.ofArguments arguments = .ok invocation →
    invocation.task ≠ .months → outcome.status = 0 →
    ∃ content answer, disk.source? start invocation.inner.input = some content ∧
      invocation.task.answerFor invocation.style invocation.inner.json content = some answer ∧
      disk.Delivers invocation.inner.output answer start outcome.stdout final

/-- Every run delivers all that it was asked for to the one place for it, or does nothing. -/
theorem run_all_or_nothing (start : σ) (setting : Option String) (arguments : List String) :
    disk.AllOrNothing arguments start ((run disk.host setting arguments).run start).1
      ((run disk.host setting arguments).run start).2 := by
  cases harguments : Invocation.ofArguments arguments with
  | error stop =>
      rw [run_of_stop harguments start]
      constructor
      · intro hstatus
        rcases stop.outcome_cases with ⟨-, -, hstdout⟩ | ⟨-, hzero⟩
        · exact ⟨hstdout, rfl⟩
        · exact absurd hzero hstatus
      · exact fun name hname => absurd rfl hname
      · intro other hother
        obtain rfl : stop = other := Except.error.inj (harguments.symm.trans hother)
        refine ⟨rfl, ?_⟩
        rcases stop.outcome_cases with ⟨husage, hstatus, -⟩ | ⟨husage, hzero⟩
        · exact iff_of_true hstatus husage
        · exact iff_of_false (not_not_intro hzero) husage
      · intro invocation hinvocation
        rw [harguments] at hinvocation
        cases hinvocation
  | ok invocation =>
      rcases perform_cases disk invocation start with ⟨failure, records, hperform⟩ |
        ⟨hmonths, hperform⟩ | ⟨htask, stdout, records, final, content, answer, hperform, hsource,
          hanswer, hdelivers⟩
      · rw [run_of_invocation harguments hperform]
        constructor <;> simp [Outcome.ofResult, harguments]
      · rw [run_of_invocation harguments hperform]
        constructor <;> simp [Outcome.ofResult, harguments, hmonths]
      · rw [run_of_invocation harguments hperform]
        constructor
        · simp [Outcome.ofResult]
        · intro name hname
          obtain ⟨path, hpath, hfile⟩ := Disk.changed_of_delivers hdelivers hname
          exact ⟨invocation, path, harguments, hpath, hfile⟩
        · simp [harguments]
        · intro other hother _ _
          obtain rfl : invocation = other := Except.ok.inj (harguments.symm.trans hother)
          exact ⟨content, answer, hsource, hanswer, hdelivers⟩

/-- A file that is rendered onto itself holds its rendering afterwards, and the file beside it is
as it was. -/
theorem run_all_or_nothing_in_place :
    let rules := "[\x7b\"comment\":\"x\"\x7d]"
    let start : Folder := { files := [("a", rules.toUTF8), ("b", ByteArray.empty)] }
    let done := (run Folder.host none ["render", "-i", "a", "-o", "./a"]).run start
    done.1.status = 0 ∧ done.1.stdout = "" ∧
      done.2.content? "a" = some "\"x\"".toUTF8 ∧
      done.2.content? "b" = some ByteArray.empty := by
  intro rules start done
  have harguments : Invocation.ofArguments ["render", "-i", "a", "-o", "./a"] =
      .ok ⟨.render, {}, { input := some "a", output := some "./a" }⟩ := by cbv
  have hsource : Folder.target "a" = .file "a" := by cbv
  have htarget : Folder.target "./a" = .file "a" := by cbv
  have htext : String.fromUTF8? rules.toUTF8 = some rules := by
    simp [String.fromUTF8?, String.isValidUTF8, String.fromUTF8]
  have hload : rulesOfText rules = .ok [{ comment := some "x" }] := by cbv
  have hold : start.content? "a" = some rules.toUTF8 := rfl
  have hstatus : done.1.status = 0 := by
    simp only [done, run, harguments, Invocation.perform, readInput, Invocation.convert, loadRules,
      writeOutput, Folder.host, Folder.read, Folder.write, hsource, htarget, hold, htext, hload,
      StateT.run, bind, StateT.bind, get, getThe, MonadStateOf.get, StateT.get, pure, StateT.pure]
    rfl
  obtain ⟨content, answer, hcontent, hanswer, hstdout, hfinal⟩ :=
    (run_all_or_nothing Folder.disk start none ["render", "-i", "a", "-o", "./a"]).succeeding _
      harguments (by decide) hstatus
  have hfile : Folder.disk.fileAt "./a" = "a" := by cbv
  rw [hfile] at hfinal
  obtain rfl : rules.toUTF8 = content := by
    refine Option.some.inj (hold.symm.trans ?_)
    rw [← hcontent]
    cbv
  have hrendered : answer = "\"x\"" := by
    simp only [Task.answerFor, htext, bind, Option.bind, hload, Except.toOption] at hanswer
    exact (Option.some.inj hanswer).symm.trans (by cbv)
  have hchanged : ∀ name, done.2.content? name = Function.update (Folder.content? start) "a"
      (some "\"x\"".toUTF8) name := by
    intro name
    rw [← hrendered]
    exact congrFun hfinal name
  refine ⟨hstatus, hstdout, ?_, ?_⟩
  · rw [hchanged, Function.update_self]
  · rw [hchanged, Function.update_of_ne (by decide)]
    rfl

end Runs

end OpeningTimes.Command

import OpeningTimes.Command.Help
import OpeningTimes.Command.Host
import OpeningTimes.Grouping
import OpeningTimes.Loading
import OpeningTimes.Log.Line
import OpeningTimes.Rule.Encoding

/-!
A run of the command.  The text to be written and the log records are computed first; only then
is anything written, and the filter decides last which records are shown.
-/

namespace OpeningTimes.Command

inductive Failure where
  | unreadableInput
  | unreadableFile (path : String) (error : FileError)
  | unwritableFile (path : String) (error : FileError)
  | badRules (error : Error)
deriving DecidableEq, Repr

/-- What went wrong first, then its causes from the outermost on. -/
def Failure.report : Failure → String × List String
  | .unreadableInput => ("Failed to read from stdin", [FileError.notText.text])
  | .unreadableFile path error => ("Failed to read file: " ++ path, [error.text])
  | .unwritableFile path error => ("Failed to write file: " ++ path, [error.text])
  | .badRules error =>
      let inner :=
        match error with
        | .json refusal => [refusal.text]
        | _ => []
      ("Failed to load rules from JSON", error.message :: inner)

/-- The causes, which are numbered when there are several. -/
def causesText : List String → String
  | [cause] => "    " ++ Text.indented "    " cause ++ "\n"
  | causes =>
      String.join <| causes.zipIdx.map fun (cause, number) =>
        "    " ++ toString number ++ ": " ++ Text.indented "       " cause ++ "\n"

def Failure.text (failure : Failure) : String :=
  let (head, causes) := failure.report
  "Error: " ++ head ++ "\n\nCaused by:\n" ++ causesText causes

structure Outcome where
  status : Nat
  stdout : String
  stderr : String
deriving DecidableEq, Repr

/-- The part of the program that a run writes its own records for. -/
def target : String :=
  "ohfmt"

def renderText (style : Style) (rules : List Rule) : Logged String :=
  renderRules style rules

/-- The groups of the rules, one joined text on each line. -/
def groupLines (style : Style) (groups : List (Group Rule)) : Logged String := do
  let lines ← groups.mapM (fun group => renderRules style group.rules)
  pure (String.intercalate "\n" lines)

def groupsText (json : Bool) (style : Style) (rules : List Rule) : Logged String := do
  let groups ← groupRules rules
  Logged.note .info target
    (toString rules.length ++ " rules form " ++ toString groups.length ++ " groups")
  if json then pure ((groupsJson (groups.map Group.rules)).pretty 0)
  else groupLines style groups

def monthsText : String :=
  String.intercalate " " Month.names

def Invocation.answer (invocation : Invocation) (rules : List Rule) : Logged String :=
  match invocation.task with
  | .render => renderText invocation.style rules
  | .groups => groupsText invocation.inner.json invocation.style rules
  | .months => pure monthsText

/-- The text that a task gives for a JSON list of rules. -/
def Invocation.convert (invocation : Invocation) (text : String) :
    Logged (Except Failure String) := do
  match ← loadRules text with
  | .error error => pure (.error (.badRules error))
  | .ok rules => do
      Logged.note .info target ("Loaded " ++ toString rules.length ++ " rules")
      let answer ← invocation.answer rules
      pure (.ok answer)

variable {m : Type → Type} [Monad m]

/-- The text of the input: of a file if one is named, and else of the standard input. -/
def readInput (host : Host m) (path : Option String) : m (Except Failure String) :=
  match path with
  | some path => do
      match ← host.readFile path with
      | .error error => pure (.error (.unreadableFile path error))
      | .ok content =>
          match String.fromUTF8? content with
          | some text => pure (.ok text)
          | none => pure (.error (.unreadableFile path .notText))
  | none => do
      match String.fromUTF8? (← host.readInput) with
      | some text => pure (.ok text)
      | none => pure (.error .unreadableInput)

/-- Leaves a text in a file if one is named; the answer is what goes to the standard output. -/
def writeOutput (host : Host m) (path : Option String) (text : String) :
    m (Except Failure String) :=
  match path with
  | none => pure (.ok (text ++ "\n"))
  | some path => do
      match ← host.writeFile path text.toUTF8 with
      | .ok () => pure (.ok "")
      | .error error => pure (.error (.unwritableFile path error))

/-- Carries a task out.  The answer holds all log records, whether they are shown or not. -/
def Invocation.perform (invocation : Invocation) (host : Host m) :
    m (Logged (Except Failure String)) :=
  match invocation.task with
  | .months => pure ⟨.ok (monthsText ++ "\n"), []⟩
  | _ => do
      match ← readInput host invocation.inner.input with
      | .error failure => pure ⟨.error failure, []⟩
      | .ok text =>
          let converted := invocation.convert text
          match converted.value with
          | .error failure => pure ⟨.error failure, converted.records⟩
          | .ok answer => do
              let written ← writeOutput host invocation.inner.output answer
              pure ⟨written, converted.records⟩

/-- What the user sees of a task that has been carried out: warnings about the setting, the log
records that are shown, and the failure if there is one. -/
def Outcome.ofResult (setting : LogSetting) (filter : LogFilter)
    (result : Logged (Except Failure String)) : Outcome :=
  let before := setting.warnings ++ filter.shownLines result.records
  match result.value with
  | .ok text => ⟨0, text, before⟩
  | .error failure => ⟨1, "", before ++ failure.text⟩

def usageText : String :=
  "Usage: " ++ Topic.usage (.scope .command) ++ "\n\nFor more information, try '--help'.\n"

def versionText : String :=
  "ohfmt 0.1.0\n"

def Stop.outcome : Stop → Outcome
  | .usage => ⟨2, "", usageText⟩
  | .version => ⟨0, versionText, ""⟩
  | .help topic => ⟨0, topic.text, ""⟩

def run (host : Host m) (setting : Option String) (arguments : List String) : m Outcome :=
  match Invocation.ofArguments arguments with
  | .error stop => pure stop.outcome
  | .ok invocation => do
      let setting := LogSetting.ofText (setting.getD "")
      let result ← invocation.perform host
      pure (Outcome.ofResult setting (invocation.filter setting) result)

end OpeningTimes.Command

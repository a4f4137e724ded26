import OpeningTimes.Command.Arguments

/-!
The help that the command gives: what it or one of its tasks is for, how it is called, and what may
follow, one entry on each line.
-/

namespace OpeningTimes.Command

def Topic.about : Topic → String
  | .scope .command => "Render and group opening_hours rules"
  | .scope (.task .render) => "Render a JSON rule list as an opening_hours string"
  | .scope (.task .groups) => "Show groups of rules that only differ in their days and times"
  | .scope (.task .months) => "List the month names used in date selectors"
  | .help => "Print this message or the help of the given subcommand(s)"

def Topic.usage : Topic → String
  | .scope .command => "ohfmt [OPTIONS] <COMMAND>"
  | .scope (.task task) => "ohfmt " ++ task.name ++ " [OPTIONS]"
  | .help => "ohfmt help [COMMAND]..."

def OptionName.about : OptionName → String
  | .switch .verbose => "Increase log verbosity (multiple uses increase verbosity further)"
  | .switch .quiet => "Only log errors"
  | .switch (.help _) => "Print help"
  | .switch .version => "Print version"
  | .switch .labelled => "Use the annotated debug form for each rule"
  | .switch .json => "Emit the groups as a JSON array of rule arrays"
  | .slot .input => "Input file (reads from stdin if omitted)"
  | .slot .output => "Output file (writes to stdout if omitted)"

/-- An option as it is listed.  Points mark the one that may be repeated, and a value has the name
of its option in capitals. -/
def OptionName.entry (option : OptionName) : String :=
  let letter :=
    match option.letter? with
    | some letter => String.ofList ['-', letter, ',', ' ']
    | none => "    "
  let value :=
    match option with
    | .switch .verbose => "..."
    | .switch _ => ""
    | .slot _ => " <" ++ option.name.map Char.toUpper ++ ">"
  letter ++ "--" ++ option.name ++ value

/-- Entries with a word on each, which start below each other. -/
def entriesText (entries : List (String × String)) : String :=
  let width := (entries.map (fun (entry, _) => entry.length)).foldl max 0
  String.join <| entries.map fun (entry, about) =>
    "  " ++ entry ++ String.ofList (List.replicate (width - entry.length) ' ') ++ "  "
      ++ about ++ "\n"

def Scope.optionsText (scope : Scope) : String :=
  "Options:\n" ++ entriesText (scope.options.map fun option => (option.entry, option.about))

def Topic.entries : Topic → String
  | .scope .command =>
      "Commands:\n" ++ entriesText (topicNames.map fun (name, topic) => (name, topic.about))
        ++ "\n" ++ Scope.optionsText .command
  | .scope (.task task) => Scope.optionsText (.task task)
  | .help => "Arguments:\n" ++ entriesText [("[COMMAND]...", "Print help for the subcommand(s)")]

def Topic.text (topic : Topic) : String :=
  topic.about ++ "\n\nUsage: " ++ topic.usage ++ "\n\n" ++ topic.entries

end OpeningTimes.Command

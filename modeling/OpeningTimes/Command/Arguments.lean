import OpeningTimes.Joining
import OpeningTimes.Log.Setting

/-!
The arguments of the command.  They are read from left to right on two levels: options of the
command itself, the name of a task, and options of the task.  Help can be asked for on both levels
and by a word in the place of a task.
-/

namespace OpeningTimes.Command

inductive Task where
  | render
  | groups
  | months
deriving DecidableEq, Repr

def Task.name : Task → String
  | .render => "render"
  | .groups => "groups"
  | .months => "months"

/-- Where options stand: before the name of the task, or after it. -/
inductive Scope where
  | command
  | task (task : Task)
deriving DecidableEq, Repr

/-- What there is help about: one of the two places, or the word `help` itself. -/
inductive Topic where
  | scope (scope : Scope)
  | help
deriving DecidableEq, Repr

def taskNames : List (String × Task) :=
  [.render, .groups, .months].map fun task => (task.name, task)

/-- The words that may follow the options of the command, with what there is help about. -/
def topicNames : List (String × Topic) :=
  taskNames.map (fun (name, task) => (name, .scope (.task task))) ++ [("help", .help)]

/-- Options without a value.  Help is about the place where it is asked for. -/
inductive Switch where
  | verbose
  | quiet
  | help (scope : Scope)
  | version
  | labelled
  | json
deriving DecidableEq, Repr

/-- Options with a value. -/
inductive Slot where
  | input
  | output
deriving DecidableEq, Repr

inductive OptionName where
  | switch (name : Switch)
  | slot (name : Slot)
deriving DecidableEq, Repr

/-- The letter that stands for an option after one dash. -/
def OptionName.letter? : OptionName → Option Char
  | .switch .verbose => some 'v'
  | .switch .quiet => some 'q'
  | .switch (.help _) => some 'h'
  | .switch .version => some 'V'
  | .switch .labelled => none
  | .switch .json => none
  | .slot .input => some 'i'
  | .slot .output => some 'o'

/-- The name that stands for an option after two dashes. -/
def OptionName.name : OptionName → String
  | .switch .verbose => "verbose"
  | .switch .quiet => "quiet"
  | .switch (.help _) => "help"
  | .switch .version => "version"
  | .switch .labelled => "debug"
  | .switch .json => "json"
  | .slot .input => "input"
  | .slot .output => "output"

/-- The options that are known in a place, in the order in which help lists them. -/
def Scope.options : Scope → List OptionName
  | .command =>
      [.switch .verbose, .switch .quiet, .switch (.help .command), .switch .version]
  | .task .render =>
      [.slot .input, .switch .verbose, .slot .output, .switch .quiet, .switch .labelled,
        .switch (.help (.task .render))]
  | .task .groups =>
      [.slot .input, .switch .verbose, .slot .output, .switch .quiet, .switch .labelled,
        .switch .json, .switch (.help (.task .groups))]
  | .task .months => [.switch .verbose, .switch .quiet, .switch (.help (.task .months))]

def Scope.ofLetter? (scope : Scope) (letter : Char) : Option OptionName :=
  scope.options.find? (fun option => option.letter? == some letter)

/-- The option with a name, which has to be given in full. -/
def Scope.ofName? (scope : Scope) (name : String) : Option OptionName :=
  scope.options.find? (fun option => option.name == name)

/-- The options that were given in one place. -/
structure Given where
  verbose : Nat := 0
  quiet : Bool := false
  labelled : Bool := false
  json : Bool := false
  input : Option String := none
  output : Option String := none
deriving DecidableEq, Repr

/-- Why no task is carried out. -/
inductive Stop where
  /-- The arguments make no sense. -/
  | usage
  /-- The version was asked for. -/
  | version
  /-- Help was asked for. -/
  | help (topic : Topic)
deriving DecidableEq, Repr

/-- The options with one more switch.  Only `verbose` may be repeated. -/
def Given.turn (given : Given) : Switch → Except Stop Given
  | .verbose => .ok { given with verbose := given.verbose + 1 }
  | .quiet => if given.quiet then .error .usage else .ok { given with quiet := true }
  | .help scope => .error (.help (.scope scope))
  | .version => .error .version
  | .labelled => if given.labelled then .error .usage else .ok { given with labelled := true }
  | .json => if given.json then .error .usage else .ok { given with json := true }

/-- The options with one more value.  No option with a value may be repeated. -/
def Given.fill (given : Given) (value : String) : Slot → Except Stop Given
  | .input => if given.input.isSome then .error .usage else .ok { given with input := some value }
  | .output =>
      if given.output.isSome then .error .usage else .ok { given with output := some value }

inductive Shape where
  | word
  /-- Two dashes alone, which end the options. -/
  | terminator
  /-- A name after two dashes, with the value after an equals sign if there is one. -/
  | long (name : String) (value : Option String)
  /-- Letters after one dash. -/
  | letters (letters : List Char)
deriving DecidableEq, Repr

/-- A name and the value after the first equals sign. -/
def splitValue : List Char → List Char × Option (List Char)
  | [] => ([], none)
  | c :: rest =>
      if c = '=' then ([], some rest)
      else
        let (name, value) := splitValue rest
        (c :: name, value)

/-- The look of an argument.  A single dash is a word. -/
def Shape.ofArgument (argument : String) : Shape :=
  match argument.toList with
  | ['-', '-'] => .terminator
  | '-' :: '-' :: rest =>
      let (name, value) := splitValue rest
      .long (String.ofList name) (value.map String.ofList)
  | '-' :: c :: rest => .letters (c :: rest)
  | _ => .word

/-- Reads letters after one dash.  A letter of an option with a value takes the remaining
characters, less an equals sign in front, as its value; when there are none the option is
returned and its value is the next argument. -/
def readLetters (scope : Scope) (given : Given) : List Char → Except Stop (Given × Option Slot)
  | [] => .ok (given, none)
  | letter :: rest =>
      match scope.ofLetter? letter with
      | none => .error .usage
      | some (.switch name) => do
          let given ← given.turn name
          readLetters scope given rest
      | some (.slot name) =>
          match rest with
          | [] => .ok (given, some name)
          | '=' :: value => do
              let given ← given.fill (String.ofList value) name
              .ok (given, none)
          | value => do
              let given ← given.fill (String.ofList value) name
              .ok (given, none)

/-- Reads one argument that is an option; the answer names the option whose value is the next
argument, if there is one. -/
def readOption (scope : Scope) (given : Given) (shape : Shape) :
    Except Stop (Given × Option Slot) :=
  match shape with
  | .word => .error .usage
  | .terminator => .error .usage
  | .long name value =>
      match scope.ofName? name, value with
      | none, _ => .error .usage
      | some (.switch name), none => do
          let given ← given.turn name
          .ok (given, none)
      | some (.switch _), some _ => .error .usage
      | some (.slot name), none => .ok (given, some name)
      | some (.slot name), some value => do
          let given ← given.fill value name
          .ok (given, none)
  | .letters letters => readLetters scope given letters

/-- Reads options up to the first word, which is left.  After two dashes only words may follow,
and the two places know none. -/
def readOptions (scope : Scope) (given : Given) : List String → Except Stop (Given × List String)
  | [] => .ok (given, [])
  | argument :: rest =>
      match Shape.ofArgument argument with
      | .word => .ok (given, argument :: rest)
      | .terminator => if rest.isEmpty then .ok (given, []) else .error .usage
      | shape => do
          match ← readOption scope given shape with
          | (given, none) => readOptions scope given rest
          | (given, some slot) =>
              match rest with
              | [] => .error .usage
              | value :: rest =>
                  if Shape.ofArgument value = .word then do
                    let given ← given.fill value slot
                    readOptions scope given rest
                  else .error .usage

/-- Options that contradict each other are refused. -/
def Given.check (given : Given) : Except Stop Unit :=
  if given.quiet && 0 < given.verbose then .error .usage
  else if given.labelled && given.json then .error .usage
  else .ok ()

/-- A task with the options before and after its name. -/
structure Invocation where
  task : Task
  outer : Given
  inner : Given
deriving DecidableEq, Repr

/-- What the words after `help` ask for.  They are no options, and only the command itself has
further words. -/
def Stop.ofHelpWords : List String → Stop
  | [] => .help (.scope .command)
  | [word] =>
      match topicNames.lookup word with
      | some topic => .help topic
      | none => .usage
  | _ => .usage

def Invocation.ofRest (task : Task) (outer : Given) (arguments : List String) :
    Except Stop Invocation := do
  let (inner, rest) ← readOptions (.task task) {} arguments
  if !rest.isEmpty then .error .usage
  else do
    inner.check
    outer.check
    .ok ⟨task, outer, inner⟩

def Invocation.ofWord (outer : Given) (word : String) (rest : List String) :
    Except Stop Invocation :=
  if word = "help" then .error (.ofHelpWords rest)
  else
    match taskNames.lookup word with
    | none => .error .usage
    | some task => Invocation.ofRest task outer rest

/-- The invocation that the arguments stand for.  Help and the version are given as soon as they
are asked for, whatever follows. -/
def Invocation.ofArguments (arguments : List String) : Except Stop Invocation := do
  let (outer, rest) ← readOptions .command {} arguments
  match rest with
  | [] => .error .usage
  | word :: rest => Invocation.ofWord outer word rest

/-- Whether only errors are to be logged.  It is enough to say so in one place. -/
def Invocation.quiet (invocation : Invocation) : Bool :=
  invocation.outer.quiet || invocation.inner.quiet

/-- How often more logging was asked for.  Places are not added up; the inner one decides if it
says anything. -/
def Invocation.verbose (invocation : Invocation) : Nat :=
  if invocation.inner.verbose = 0 then invocation.outer.verbose else invocation.inner.verbose

def Invocation.threshold? (invocation : Invocation) : Option Threshold :=
  if invocation.quiet then some (.upTo .error)
  else
    match invocation.verbose with
    | 0 => none
    | 1 => some (.upTo .info)
    | 2 => some (.upTo .debug)
    | _ => some (.upTo .trace)

/-- The filter for log records: what the setting says, except that the options replace its general
threshold. -/
def Invocation.filter (invocation : Invocation) (setting : LogSetting) : LogFilter :=
  match invocation.threshold? with
  | none => setting.filter
  | some threshold => { setting.filter with general := threshold }

def Invocation.style (invocation : Invocation) : Style :=
  if invocation.inner.labelled then .labelled else .canonical

end OpeningTimes.Command

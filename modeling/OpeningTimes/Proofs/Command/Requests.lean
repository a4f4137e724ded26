import Mathlib.Data.List.TakeWhile
import OpeningTimes.Proofs.Command.Options

/-!
What arguments ask of the log, read off the arguments themselves.  An invocation that is read from
arguments asks for the same: its options for logging are those in the arguments, each counted in
its place.
-/

namespace OpeningTimes.Command

/-- The options for logging among the letters after one dash. -/
def loggingLetters : List Char → List Switch
  | [] => []
  | letter :: rest =>
      if letter = 'v' then .verbose :: loggingLetters rest
      else if letter = 'q' then .quiet :: loggingLetters rest
      else if letter = 'i' ∨ letter = 'o' then []
      else loggingLetters rest

def loggingName (name : String) : List Switch :=
  if name = "verbose" then [.verbose] else if name = "quiet" then [.quiet] else []

def loggingOptions (argument : String) : List Switch :=
  match Shape.ofArgument argument with
  | .long name none => loggingName name
  | .letters letters => loggingLetters letters
  | _ => []

/-- Whether an argument stands before the first word. -/
def isOption (argument : String) : Bool :=
  decide (Shape.ofArgument argument ≠ .word)

/-- What arguments ask of the log: whether it is to be quiet, and how often more of it is asked for
before the first word, which names the task, and after it. -/
structure Request where
  quiet : Bool
  outer : Nat
  inner : Nat
deriving DecidableEq, Repr

def Request.ofArguments (arguments : List String) : Request :=
  let before := (arguments.takeWhile isOption).flatMap loggingOptions
  let behind := (arguments.dropWhile isOption).flatMap loggingOptions
  ⟨before.contains .quiet || behind.contains .quiet, before.count .verbose,
    behind.count .verbose⟩

/-- How often more of the log is asked for.  What is asked for after the first word counts instead
of what is asked for before it. -/
def Request.count (request : Request) : Nat :=
  if request.inner = 0 then request.outer else request.inner

/-- The least urgent level when more of the log is asked for once, twice or more often. -/
def levelFor (count : Nat) : Level :=
  if count ≤ 1 then .info else if count = 2 then .debug else .trace

/-- The threshold that takes the place of the general one.  A quiet log shows errors only. -/
def Request.threshold? (request : Request) : Option Threshold :=
  if request.quiet then some (.upTo .error)
  else if request.count = 0 then none
  else some (.upTo (levelFor request.count))

/-- More of the log is asked for in one of the two places where some was asked for, and all else is
the same. -/
def Request.MoreVerbose (fewer more : Request) : Prop :=
  more.quiet = fewer.quiet ∧
    ((0 < fewer.outer ∧ fewer.outer < more.outer ∧ more.inner = fewer.inner) ∨
      (0 < fewer.inner ∧ fewer.inner < more.inner ∧ more.outer = fewer.outer))

/-- What is refused on some condition, and is not refused, is as it would be without it. -/
theorem eq_of_unless {α : Type} {refused : Prop} [Decidable refused] {value after : α}
    (hresult : (if refused then .error .usage else .ok value : Except Stop α) = .ok after) :
    after = value := by
  split at hresult
  · cases hresult
  · exact (Except.ok.inj hresult).symm

/-- The option itself if it is one for logging. -/
def OptionName.heard : OptionName → List Switch
  | .switch .verbose => [.verbose]
  | .switch .quiet => [.quiet]
  | _ => []

/-- Reading on has added some options for logging to those that were given. -/
structure Given.Hears (given : Given) (heard : List Switch) (after : Given) : Prop where
  verbose : after.verbose = given.verbose + heard.count .verbose
  quiet : after.quiet = (given.quiet || heard.contains .quiet)

namespace Given

theorem Hears.of_eq {given after : Given} (hverbose : after.verbose = given.verbose)
    (hquiet : after.quiet = given.quiet) : given.Hears [] after :=
  ⟨by simpa using hverbose, by simpa using hquiet⟩

theorem Hears.append {given between after : Given} {first second : List Switch}
    (hfirst : given.Hears first between) (hsecond : between.Hears second after) :
    given.Hears (first ++ second) after := by
  constructor
  · rw [hsecond.verbose, hfirst.verbose, List.count_append, Nat.add_assoc]
  · rw [hsecond.quiet, hfirst.quiet, List.contains_append, Bool.or_assoc]

theorem hears_of_turn {given after : Given} {name : Switch} (hturn : given.turn name = .ok after) :
    given.Hears (OptionName.switch name).heard after := by
  cases name with
  | verbose =>
      cases hturn
      exact ⟨rfl, by simp [OptionName.heard]⟩
  | quiet =>
      rw [eq_of_unless hturn]
      exact ⟨rfl, by simp [OptionName.heard]⟩
  | help scope => cases hturn
  | version => cases hturn
  | labelled =>
      rw [eq_of_unless hturn]
      exact Hears.of_eq rfl rfl
  | json =>
      rw [eq_of_unless hturn]
      exact Hears.of_eq rfl rfl

theorem hears_of_fill {given after : Given} {value : String} {slot : Slot}
    (hfill : given.fill value slot = .ok after) : given.Hears [] after := by
  cases slot with
  | input =>
      rw [eq_of_unless hfill]
      exact Hears.of_eq rfl rfl
  | output =>
      rw [eq_of_unless hfill]
      exact Hears.of_eq rfl rfl

end Given

theorem exists_of_bind {α β : Type} {first : Except Stop α} {next : α → Except Stop β} {result : β}
    (hbind : first.bind next = .ok result) :
    ∃ value, first = .ok value ∧ next value = .ok result := by
  cases first with
  | error stop => cases hbind
  | ok value => exact ⟨value, rfl, hbind⟩

theorem loggingLetters_switch {scope : Scope} {letter : Char} {name : Switch}
    (hoption : scope.ofLetter? letter = some (.switch name)) (rest : List Char) :
    loggingLetters (letter :: rest) =
      (OptionName.switch name).heard ++ loggingLetters rest := by
  have hletter : (OptionName.switch name).letter? = some letter := by
    simpa using List.find?_some hoption
  cases name <;> cases hletter <;> rfl

theorem loggingLetters_slot {scope : Scope} {letter : Char} {name : Slot}
    (hoption : scope.ofLetter? letter = some (.slot name)) (rest : List Char) :
    loggingLetters (letter :: rest) = [] := by
  have hletter : (OptionName.slot name).letter? = some letter := by
    simpa using List.find?_some hoption
  cases name <;> cases hletter <;> rfl

theorem loggingName_of_ofName? {scope : Scope} {name : String} {option : OptionName}
    (hoption : scope.ofName? name = some option) : loggingName name = option.heard := by
  have hname : option.name = name := by simpa using List.find?_some hoption
  subst hname
  cases option with
  | switch name => cases name <;> rfl
  | slot name => cases name <;> rfl

theorem hears_of_readLetters {scope : Scope} {given after : Given} {letters : List Char}
    {slot : Option Slot} (hread : readLetters scope given letters = .ok (after, slot)) :
    given.Hears (loggingLetters letters) after := by
  induction letters generalizing given with
  | nil =>
      cases hread
      exact Given.Hears.of_eq rfl rfl
  | cons letter rest ih =>
      cases hoption : scope.ofLetter? letter with
      | none => simp [readLetters, hoption] at hread
      | some option =>
          cases option with
          | switch name =>
              rw [readLetters_switch hoption] at hread
              obtain ⟨between, hturn, hrest⟩ := exists_of_bind hread
              rw [loggingLetters_switch hoption]
              exact (Given.hears_of_turn hturn).append (ih hrest)
          | slot name =>
              rw [loggingLetters_slot hoption]
              rcases readLetters_slot hoption rest with hlast | ⟨value, hvalue⟩
              · rw [hlast] at hread
                cases hread
                exact Given.Hears.of_eq rfl rfl
              · rw [hvalue] at hread
                obtain ⟨filled, hfill, hresult⟩ := exists_of_bind hread
                cases hresult
                exact Given.hears_of_fill hfill

theorem hears_of_readOption {scope : Scope} {given after : Given} {argument : String}
    {slot : Option Slot}
    (hread : readOption scope given (Shape.ofArgument argument) = .ok (after, slot)) :
    given.Hears (loggingOptions argument) after := by
  unfold loggingOptions
  cases hshape : Shape.ofArgument argument with
  | word =>
      rw [hshape] at hread
      cases hread
  | terminator =>
      rw [hshape] at hread
      cases hread
  | letters letters =>
      rw [hshape] at hread
      exact hears_of_readLetters hread
  | long name value =>
      rw [hshape] at hread
      cases hoption : scope.ofName? name with
      | none => simp [readOption, hoption] at hread
      | some option =>
          simp only [readOption, hoption] at hread
          cases option with
          | switch name =>
              cases value with
              | some value => cases hread
              | none =>
                  simp only [loggingName_of_ofName? hoption]
                  obtain ⟨between, hturn, hresult⟩ := exists_of_bind hread
                  cases hresult
                  exact Given.hears_of_turn hturn
          | slot slot =>
              cases value with
              | some value =>
                  obtain ⟨filled, hfill, hresult⟩ := exists_of_bind hread
                  cases hresult
                  exact Given.hears_of_fill hfill
              | none =>
                  simp only [loggingName_of_ofName? hoption]
                  cases hread
                  exact Given.Hears.of_eq rfl rfl

/-- Options make a step: one argument is read, or two if the second is the value of the first. -/
theorem readOptions_cases {scope : Scope} {given after : Given} {argument : String}
    {rest left : List String}
    (hread : readOptions scope given (argument :: rest) = .ok (after, left)) :
    (after = given ∧ left = argument :: rest ∧ Shape.ofArgument argument = .word) ∨
    (after = given ∧ left = [] ∧ rest = [] ∧ Shape.ofArgument argument = .terminator) ∨
    (∃ between, readOption scope given (Shape.ofArgument argument) = .ok (between, none) ∧
      readOptions scope between rest = .ok (after, left)) ∨
    ∃ between slot value more filled, rest = value :: more ∧
      readOption scope given (Shape.ofArgument argument) = .ok (between, some slot) ∧
      Shape.ofArgument value = .word ∧ between.fill value slot = .ok filled ∧
      readOptions scope filled more = .ok (after, left) := by
  by_cases hword : Shape.ofArgument argument = .word
  · simp only [readOptions, hword, Except.ok.injEq, Prod.mk.injEq] at hread
    exact Or.inl ⟨hread.1.symm, hread.2.symm, hword⟩
  by_cases hterminator : Shape.ofArgument argument = .terminator
  · cases rest with
    | cons next more => simp [readOptions, hterminator] at hread
    | nil =>
        simp only [readOptions, hterminator, List.isEmpty_nil, if_true, Except.ok.injEq,
          Prod.mk.injEq] at hread
        exact Or.inr (Or.inl ⟨hread.1.symm, hread.2.symm, rfl, hterminator⟩)
  rw [readOptions_option hword hterminator] at hread
  obtain ⟨⟨between, slot⟩, hoption, hbehind⟩ := exists_of_bind hread
  cases slot with
  | none => exact Or.inr (Or.inr (Or.inl ⟨between, hoption, hbehind⟩))
  | some slot =>
      cases rest with
      | nil => cases hbehind
      | cons value more =>
          by_cases hvalue : Shape.ofArgument value = .word
          · simp only [readBehind, hvalue, if_true] at hbehind
            obtain ⟨filled, hfill, hmore⟩ := exists_of_bind hbehind
            exact Or.inr (Or.inr (Or.inr
              ⟨between, slot, value, more, filled, rfl, hoption, hvalue, hfill, hmore⟩))
          · simp [readBehind, hvalue] at hbehind

theorem loggingOptions_of_word {argument : String} (hword : Shape.ofArgument argument = .word) :
    loggingOptions argument = [] := by
  simp [loggingOptions, hword]

/-- The options for logging in front of the arguments that are left have been heard. -/
theorem hears_of_readOptions {scope : Scope} {given after : Given} {arguments left : List String}
    (hread : readOptions scope given arguments = .ok (after, left)) :
    ∃ front, arguments = front ++ left ∧ given.Hears (front.flatMap loggingOptions) after := by
  -- An option may take the argument after it along, so the induction is on the length.
  induction hlength : arguments.length using Nat.strongRecOn generalizing given arguments with
  | ind length ih =>
  subst hlength
  cases arguments with
  | nil =>
      cases hread
      exact ⟨[], rfl, Given.Hears.of_eq rfl rfl⟩
  | cons argument rest =>
      rcases readOptions_cases hread with ⟨rfl, rfl, -⟩ | ⟨rfl, rfl, rfl, hterminator⟩ |
        ⟨between, hoption, hrest⟩ |
        ⟨between, slot, value, more, filled, rfl, hoption, hvalue, hfill, hmore⟩
      · exact ⟨[], rfl, Given.Hears.of_eq rfl rfl⟩
      · refine ⟨[argument], by simp, ?_⟩
        simpa [loggingOptions, hterminator] using Given.Hears.of_eq rfl rfl
      · obtain ⟨front, rfl, hfront⟩ := ih rest.length (by simp) hrest rfl
        exact ⟨argument :: front, rfl, (hears_of_readOption hoption).append hfront⟩
      · obtain ⟨front, rfl, hfront⟩ := ih more.length (by grind) hmore rfl
        have hvalueHeard : between.Hears (loggingOptions value) filled := by
          rw [loggingOptions_of_word hvalue]
          exact Given.hears_of_fill hfill
        exact ⟨argument :: value :: front, rfl,
          (hears_of_readOption hoption).append (hvalueHeard.append hfront)⟩

theorem slot_mem_of_readLetters {scope : Scope} {given between : Given} {letters : List Char}
    {slot : Slot} (hread : readLetters scope given letters = .ok (between, some slot)) :
    .slot slot ∈ scope.options := by
  induction letters generalizing given with
  | nil => cases hread
  | cons letter rest ih =>
      cases hoption : scope.ofLetter? letter with
      | none => simp [readLetters, hoption] at hread
      | some option =>
          cases option with
          | switch name =>
              rw [readLetters_switch hoption] at hread
              obtain ⟨after, -, hrest⟩ := exists_of_bind hread
              exact ih hrest
          | slot name =>
              rcases readLetters_slot hoption rest with hlast | ⟨value, hvalue⟩
              · rw [hlast] at hread
                cases hread
                exact List.mem_of_find?_eq_some hoption
              · rw [hvalue] at hread
                obtain ⟨filled, -, hresult⟩ := exists_of_bind hread
                cases hresult

/-- An option whose value is the next argument is known in its place. -/
theorem slot_mem_of_readOption {scope : Scope} {given between : Given} {shape : Shape}
    {slot : Slot} (hread : readOption scope given shape = .ok (between, some slot)) :
    .slot slot ∈ scope.options := by
  cases shape with
  | word => cases hread
  | terminator => cases hread
  | letters letters => exact slot_mem_of_readLetters hread
  | long name value =>
      cases hoption : scope.ofName? name with
      | none => simp [readOption, hoption] at hread
      | some option =>
          simp only [readOption, hoption] at hread
          cases option with
          | switch name =>
              cases value with
              | some value => cases hread
              | none =>
                  obtain ⟨after, -, hresult⟩ := exists_of_bind hread
                  cases hresult
          | slot name =>
              cases value with
              | some value =>
                  obtain ⟨after, -, hresult⟩ := exists_of_bind hread
                  cases hresult
              | none =>
                  cases hread
                  exact List.mem_of_find?_eq_some hoption

/-- What the options of the command leave starts with the first word, for none of them takes a
value. -/
theorem dropWhile_isOption {given after : Given} {arguments left : List String}
    (hread : readOptions .command given arguments = .ok (after, left)) :
    arguments.dropWhile isOption = left := by
  induction arguments generalizing given with
  | nil =>
      cases hread
      rfl
  | cons argument rest ih =>
      rcases readOptions_cases hread with ⟨rfl, rfl, hword⟩ | ⟨rfl, rfl, rfl, hterminator⟩ |
        ⟨between, hoption, hrest⟩ | ⟨between, slot, value, more, filled, rfl, hoption, -⟩
      · simp [isOption, hword]
      · simp [isOption, hterminator]
      · have hword : Shape.ofArgument argument ≠ .word := by
          intro hword
          rw [hword] at hoption
          cases hoption
        rw [List.dropWhile_cons_of_pos (by simp [isOption, hword])]
        exact ih hrest
      · exact absurd (slot_mem_of_readOption hoption) (by simp [Scope.options])

/-- The invocation of a task has heard the options for logging behind the name of the task. -/
theorem hears_of_ofRest {task : Task} {outer : Given} {rest : List String} {invocation : Invocation}
    (hrest : Invocation.ofRest task outer rest = .ok invocation) :
    invocation.outer = outer ∧
      Given.Hears {} (rest.flatMap loggingOptions) invocation.inner := by
  rw [Invocation.ofRest_eq] at hrest
  obtain ⟨⟨inner, left⟩, hread, hchecks⟩ := exists_of_bind hrest
  cases left with
  | cons argument left => cases hchecks
  | nil =>
      obtain ⟨-, -, houter⟩ := exists_of_bind hchecks
      obtain ⟨-, -, hinvocation⟩ := exists_of_bind houter
      cases hinvocation
      obtain ⟨front, rfl, hfront⟩ := hears_of_readOptions hread
      exact ⟨rfl, by simpa using hfront⟩

/-- A word that leads to an invocation names its task. -/
theorem exists_task_of_ofWord {outer : Given} {word : String} {rest : List String}
    {invocation : Invocation} (hword : Invocation.ofWord outer word rest = .ok invocation) :
    ∃ task, taskNames.lookup word = some task ∧
      Invocation.ofRest task outer rest = .ok invocation := by
  by_cases hhelp : word = "help"
  · simp [Invocation.ofWord, hhelp] at hword
  · rw [Invocation.ofWord, if_neg hhelp] at hword
    cases hlookup : taskNames.lookup word with
    | none => simp [hlookup] at hword
    | some task =>
        rw [hlookup] at hword
        exact ⟨task, rfl, hword⟩

/-- An invocation asks of the log what the arguments ask that it is read from. -/
theorem request_of_ofArguments {arguments : List String} {invocation : Invocation}
    (harguments : Invocation.ofArguments arguments = .ok invocation) :
    Request.ofArguments arguments =
      ⟨invocation.quiet, invocation.outer.verbose, invocation.inner.verbose⟩ := by
  rw [Invocation.ofArguments_eq] at harguments
  obtain ⟨⟨outer, left⟩, hread, hleft⟩ := exists_of_bind harguments
  cases left with
  | nil => cases hleft
  | cons word rest =>
      obtain ⟨task, hlookup, hrest⟩ := exists_task_of_ofWord hleft
      obtain ⟨houter, hinner⟩ := hears_of_ofRest hrest
      obtain ⟨front, hfront, hheard⟩ := hears_of_readOptions hread
      have hbehind : arguments.dropWhile isOption = word :: rest := dropWhile_isOption hread
      have hbefore : arguments.takeWhile isOption = front := by
        have hsplit := List.takeWhile_append_dropWhile (p := isOption) (l := arguments)
        rw [hbehind] at hsplit
        exact List.append_cancel_right (hsplit.trans hfront)
      simp only [Request.ofArguments, hbefore, hbehind, List.flatMap_cons,
        loggingOptions_of_word (ofArgument_of_task hlookup), List.nil_append, Invocation.quiet,
        houter, hheard.quiet, hheard.verbose, hinner.quiet, hinner.verbose]
      simp

theorem threshold?_of_ofArguments {arguments : List String} {invocation : Invocation}
    (harguments : Invocation.ofArguments arguments = .ok invocation) :
    invocation.threshold? = (Request.ofArguments arguments).threshold? := by
  have hcount : (Request.ofArguments arguments).count = invocation.verbose := by
    rw [request_of_ofArguments harguments, Request.count, Invocation.verbose]
  have hquiet : (Request.ofArguments arguments).quiet = invocation.quiet := by
    rw [request_of_ofArguments harguments]
  rw [Invocation.threshold?, Request.threshold?, hcount, hquiet]
  cases invocation.quiet with
  | true => rfl
  | false =>
      match invocation.verbose with
      | 0 | 1 | 2 => rfl
      | count + 3 => simp [levelFor]

/-- The more often more is asked for, the less urgent levels are shown. -/
theorem rank_levelFor_le {fewer more : Nat} (hle : fewer ≤ more) :
    (levelFor fewer).rank ≤ (levelFor more).rank := by
  unfold levelFor
  split_ifs <;> simp only [Level.rank] <;> omega

/-- Once more logging is asked for at all, asking for more of it hides nothing. -/
theorem Request.shows_of_moreVerbose {fewer more : Request} (hmore : fewer.MoreVerbose more)
    (general : Threshold) {level : Level}
    (hshows : (fewer.threshold?.getD general).shows level = true) :
    (more.threshold?.getD general).shows level = true := by
  obtain ⟨hquiet, hplace⟩ := hmore
  have hcount : 0 < fewer.count ∧ fewer.count ≤ more.count := by
    unfold count
    split_ifs <;> omega
  unfold threshold? at *
  rw [hquiet]
  cases hasked : fewer.quiet with
  | true => simpa [hasked] using hshows
  | false =>
      have hmany : more.count ≠ 0 := by omega
      simp only [hasked, Bool.false_eq_true, if_false, Nat.ne_of_gt hcount.1, hmany,
        Option.getD_some, Threshold.shows_upTo_iff] at hshows ⊢
      exact hshows.trans (rank_levelFor_le hcount.2)

end OpeningTimes.Command

import OpeningTimes.Command.Arguments

/-!
Options for logging have no say in what the other options are.  When they are taken out of
arguments that make sense, what is left stands for the same invocation without them.
-/

namespace OpeningTimes.Command

/-- Whether an option asks for more or less logging. -/
def OptionName.forLogging : OptionName → Bool
  | .switch .verbose => true
  | .switch .quiet => true
  | _ => false

/-- The letters after one dash without those of the options for logging.  What follows the letter
of an option with a value is that value. -/
def lettersWithoutLogging : List Char → List Char
  | [] => []
  | letter :: rest =>
      if letter = 'v' ∨ letter = 'q' then lettersWithoutLogging rest
      else if letter = 'i' ∨ letter = 'o' then letter :: rest
      else letter :: lettersWithoutLogging rest

/-- The argument without the options for logging, if anything is left of it. -/
def argumentWithoutLogging (argument : String) : Option String :=
  match Shape.ofArgument argument with
  | .long name none => if name = "verbose" ∨ name = "quiet" then none else some argument
  | .letters letters =>
      match lettersWithoutLogging letters with
      | [] => none
      | left => some (String.ofList ('-' :: left))
  | _ => some argument

/-- The arguments without the options for logging.  No value of another option looks like one. -/
def withoutLogging (arguments : List String) : List String :=
  arguments.filterMap argumentWithoutLogging

namespace Given

def plain (given : Given) : Given :=
  { given with verbose := 0, quiet := false }

theorem turn_logging (given : Given) {name : Switch}
    (hlogging : (OptionName.switch name).forLogging = true) :
    given.turn name = .error .usage ∨
      ∃ after, given.turn name = .ok after ∧ after.plain = given.plain := by
  cases name with
  | verbose => exact Or.inr ⟨_, rfl, rfl⟩
  | quiet =>
      cases hgiven : given.quiet with
      | true => exact Or.inl (by simp [turn, hgiven])
      | false => exact Or.inr ⟨{ given with quiet := true }, by simp [turn, hgiven], rfl⟩
  | help scope => cases hlogging
  | version => cases hlogging
  | labelled => cases hlogging
  | json => cases hlogging

theorem turn_plain {given : Given} {name : Switch}
    (hlogging : (OptionName.switch name).forLogging = false) :
    given.plain.turn name = (given.turn name).map plain := by
  cases name with
  | verbose => cases hlogging
  | quiet => cases hlogging
  | help scope => rfl
  | version => rfl
  | labelled => cases hgiven : given.labelled <;> simp [turn, plain, hgiven, Except.map]
  | json => cases hgiven : given.json <;> simp [turn, plain, hgiven, Except.map]

theorem fill_plain (given : Given) (value : String) (slot : Slot) :
    given.plain.fill value slot = (given.fill value slot).map plain := by
  cases slot with
  | input => cases hgiven : given.input <;> simp [fill, plain, hgiven, Except.map]
  | output => cases hgiven : given.output <;> simp [fill, plain, hgiven, Except.map]

end Given

namespace Scope

/-- The options for logging are those with the letters `v` and `q`, and the options with a value
are those with the letters `i` and `o`. -/
theorem letter_cases {scope : Scope} {letter : Char} {option : OptionName}
    (hoption : scope.ofLetter? letter = some option) :
    (option.forLogging = true ↔ letter = 'v' ∨ letter = 'q') ∧
      ((∃ slot, option = .slot slot) ↔ letter = 'i' ∨ letter = 'o') := by
  have hletter : option.letter? = some letter := by simpa using List.find?_some hoption
  cases option with
  | switch name => cases name <;> cases hletter <;> simp [OptionName.forLogging]
  | slot name => cases name <;> cases hletter <;> simp [OptionName.forLogging]

/-- The options for logging are those with the names `verbose` and `quiet`. -/
theorem forLogging_iff_name {scope : Scope} {name : String} {option : OptionName}
    (hoption : scope.ofName? name = some option) :
    option.forLogging = true ↔ name = "verbose" ∨ name = "quiet" := by
  have hname : option.name = name := by simpa using List.find?_some hoption
  subst hname
  cases option with
  | switch name => cases name <;> simp [OptionName.forLogging, OptionName.name]
  | slot name => cases name <;> simp [OptionName.forLogging, OptionName.name]

/-- No option has a dash for its letter. -/
theorem ofLetter?_dash (scope : Scope) : scope.ofLetter? '-' = none := by
  cases scope with
  | command => rfl
  | task task => cases task <;> rfl

end Scope

/-- The letter of an option with a value is the last one, or all that follows is the value. -/
theorem readLetters_slot {scope : Scope} {letter : Char} {name : Slot}
    (hoption : scope.ofLetter? letter = some (.slot name)) (rest : List Char) :
    (∀ given, readLetters scope given (letter :: rest) = .ok (given, some name)) ∨
      ∃ value, ∀ given, readLetters scope given (letter :: rest) =
        (given.fill value name).map (fun after => (after, none)) := by
  simp only [readLetters, hoption]
  split
  · exact Or.inl fun given => rfl
  · next value => exact Or.inr ⟨String.ofList value, fun given => rfl⟩
  · exact Or.inr ⟨String.ofList rest, fun given => rfl⟩

/-- The letter of an option without a value turns it on. -/
theorem readLetters_switch {scope : Scope} {letter : Char} {name : Switch}
    (hoption : scope.ofLetter? letter = some (.switch name)) (given : Given) (rest : List Char) :
    readLetters scope given (letter :: rest) =
      (given.turn name).bind (fun after => readLetters scope after rest) := by
  simp only [readLetters, hoption]
  rfl

/-- Letters that make sense do so without those of the options for logging. -/
theorem readLetters_withoutLogging (scope : Scope) (given : Given) (letters : List Char)
    (hsense : readLetters scope given letters ≠ .error .usage) :
    readLetters scope given.plain (lettersWithoutLogging letters) =
      (readLetters scope given letters).map (Prod.map Given.plain id) := by
  induction letters generalizing given with
  | nil => rfl
  | cons letter rest ih =>
      cases hoption : scope.ofLetter? letter with
      | none => exact absurd (by simp [readLetters, hoption]) hsense
      | some option =>
          obtain ⟨hlogging, hslot⟩ := Scope.letter_cases hoption
          cases option with
          | slot name =>
              have hkept : ¬ (letter = 'v' ∨ letter = 'q') := by
                simp [← hlogging, OptionName.forLogging]
              rw [lettersWithoutLogging, if_neg hkept, if_pos (hslot.1 ⟨name, rfl⟩)]
              rcases readLetters_slot hoption rest with hlast | ⟨value, hvalue⟩
              · rw [hlast, hlast]
                rfl
              · rw [hvalue, hvalue, Given.fill_plain]
                cases given.fill value name <;> rfl
          | switch name =>
              have hgoes : ¬ (letter = 'i' ∨ letter = 'o') := by simp [← hslot]
              rw [readLetters_switch hoption] at hsense ⊢
              cases hkind : (OptionName.switch name).forLogging with
              | true =>
                  rw [lettersWithoutLogging, if_pos (hlogging.1 hkind)]
                  rcases given.turn_logging hkind with
                    hturn | ⟨after, hturn, hafter⟩
                  · exact absurd (by rw [hturn]; rfl) hsense
                  · rw [hturn] at hsense ⊢
                    rw [← hafter]
                    exact ih after hsense
              | false =>
                  have hkept : ¬ (letter = 'v' ∨ letter = 'q') := by simp [← hlogging, hkind]
                  rw [lettersWithoutLogging, if_neg hkept, if_neg hgoes,
                    readLetters_switch hoption, Given.turn_plain hkind]
                  cases hturn : given.turn name with
                  | error stop => rfl
                  | ok after =>
                      rw [hturn] at hsense
                      exact ih after hsense

theorem map_ne_usage {α β : Type} {change : α → β} {result : Except Stop α}
    (hsense : result ≠ .error .usage) : result.map change ≠ .error .usage := by
  cases result with
  | error stop => exact fun husage => hsense (congrArg Except.error (Except.error.inj husage))
  | ok value => exact nofun

/-- Letters that make sense start with that of an option. -/
theorem ne_dash_of_readLetters {scope : Scope} {given : Given} {letter : Char} {rest : List Char}
    (hsense : readLetters scope given (letter :: rest) ≠ .error .usage) : letter ≠ '-' := by
  rintro rfl
  exact hsense (by simp [readLetters, scope.ofLetter?_dash])

/-- Letters after one dash look like that as long as they do not start with another dash. -/
theorem Shape.ofArgument_letters {letter : Char} (hletter : letter ≠ '-') (rest : List Char) :
    Shape.ofArgument (String.ofList ('-' :: letter :: rest)) = .letters (letter :: rest) := by
  unfold ofArgument
  rw [String.toList_ofList]
  split <;> simp_all

/-- An option with a name that makes sense is one for logging, or it reads the same whatever
logging was asked for. -/
theorem readOption_long {scope : Scope} {given : Given} {name : String} {value : Option String}
    (hsense : readOption scope given (.long name value) ≠ .error .usage) :
    (value = none ∧ (name = "verbose" ∨ name = "quiet") ∧
      ∃ after, readOption scope given (.long name value) = .ok (after, none) ∧
        after.plain = given.plain) ∨
    (¬ (value = none ∧ (name = "verbose" ∨ name = "quiet")) ∧
      readOption scope given.plain (.long name value) =
        (readOption scope given (.long name value)).map (Prod.map Given.plain id)) := by
  cases hoption : scope.ofName? name with
  | none => exact absurd (by simp [readOption, hoption]) hsense
  | some option =>
      have hlogging := Scope.forLogging_iff_name hoption
      cases option with
      | slot slot =>
          refine Or.inr ⟨by simp [← hlogging, OptionName.forLogging], ?_⟩
          cases value with
          | none => simp [readOption, hoption, Except.map]
          | some value =>
              simp only [readOption, hoption, Given.fill_plain]
              cases given.fill value slot <;> rfl
      | switch name =>
          cases value with
          | some value => exact absurd (by simp [readOption, hoption]) hsense
          | none =>
              cases hkind : (OptionName.switch name).forLogging with
              | true =>
                  refine Or.inl ⟨rfl, hlogging.1 hkind, ?_⟩
                  rcases given.turn_logging hkind with
                    hturn | ⟨after, hturn, hafter⟩
                  · exact absurd (by simp only [readOption, hoption, hturn]; rfl) hsense
                  · exact ⟨after, by simp only [readOption, hoption, hturn]; rfl, hafter⟩
              | false =>
                  refine Or.inr ⟨by simp [← hlogging, hkind], ?_⟩
                  simp only [readOption, hoption, Given.turn_plain hkind]
                  cases given.turn name <;> rfl

/-- When nothing is left of letters that make sense, they only turned on options for logging. -/
theorem readLetters_of_dropped {scope : Scope} {given : Given} {letters : List Char}
    (hdropped : lettersWithoutLogging letters = [])
    (hsense : readLetters scope given letters ≠ .error .usage) :
    ∃ after, readLetters scope given letters = .ok (after, none) ∧ after.plain = given.plain := by
  have hread := readLetters_withoutLogging scope given letters hsense
  rw [hdropped] at hread
  cases hletters : readLetters scope given letters with
  | error stop =>
      rw [hletters] at hread
      cases hread
  | ok result =>
      obtain ⟨after, slot⟩ := result
      rw [hletters] at hread
      obtain ⟨hplain, rfl⟩ : given.plain = after.plain ∧ none = slot :=
        Prod.mk.inj (Except.ok.inj hread)
      exact ⟨after, rfl, hplain.symm⟩

/-- An option that makes sense does so without the options for logging, if anything is left. -/
theorem readOption_withoutLogging {scope : Scope} {given : Given} {argument : String}
    (hsense : readOption scope given (Shape.ofArgument argument) ≠ .error .usage) :
    (argumentWithoutLogging argument = none ∧
      ∃ after, readOption scope given (Shape.ofArgument argument) = .ok (after, none) ∧
        after.plain = given.plain) ∨
    ∃ left, argumentWithoutLogging argument = some left ∧
      Shape.ofArgument left ≠ .word ∧ Shape.ofArgument left ≠ .terminator ∧
      readOption scope given.plain (Shape.ofArgument left) =
        (readOption scope given (Shape.ofArgument argument)).map (Prod.map Given.plain id) := by
  cases hshape : Shape.ofArgument argument with
  | word => exact absurd (by rw [hshape]; rfl) hsense
  | terminator => exact absurd (by rw [hshape]; rfl) hsense
  | long name value =>
      rw [hshape] at hsense
      rcases readOption_long hsense with ⟨rfl, hname, hafter⟩ | ⟨hname, hread⟩
      · exact Or.inl ⟨by simp [argumentWithoutLogging, hshape, hname], hafter⟩
      · refine Or.inr ⟨argument, ?_, by simp [hshape], by simp [hshape], by rw [hshape, hread]⟩
        cases value with
        | none =>
            have hother : ¬ (name = "verbose" ∨ name = "quiet") := fun h => hname ⟨rfl, h⟩
            simp only [argumentWithoutLogging, hshape, if_neg hother]
        | some value => simp only [argumentWithoutLogging, hshape]
  | letters letters =>
      rw [hshape] at hsense
      have hread := readLetters_withoutLogging scope given letters hsense
      cases hleft : lettersWithoutLogging letters with
      | nil =>
          exact Or.inl ⟨by simp [argumentWithoutLogging, hshape, hleft],
            readLetters_of_dropped hleft hsense⟩
      | cons letter rest =>
          rw [hleft] at hread
          have hkept : readLetters scope given.plain (letter :: rest) ≠ .error .usage := by
            rw [hread]
            exact map_ne_usage hsense
          have hform := Shape.ofArgument_letters (ne_dash_of_readLetters hkept) rest
          refine Or.inr ⟨String.ofList ('-' :: letter :: rest), ?_, ?_, ?_, ?_⟩
          · simp only [argumentWithoutLogging, hshape, hleft]
          · rw [hform]
            exact nofun
          · rw [hform]
            exact nofun
          · rw [hform]
            exact hread

/-- Reads on after an option, whose value may be the next argument. -/
def readBehind (scope : Scope) (rest : List String) :
    Given × Option Slot → Except Stop (Given × List String)
  | (given, none) => readOptions scope given rest
  | (given, some slot) =>
      match rest with
      | [] => .error .usage
      | value :: rest =>
          if Shape.ofArgument value = .word then
            (given.fill value slot).bind fun after => readOptions scope after rest
          else .error .usage

theorem readOptions_option {scope : Scope} {given : Given} {argument : String}
    (hword : Shape.ofArgument argument ≠ .word)
    (hterminator : Shape.ofArgument argument ≠ .terminator) (rest : List String) :
    readOptions scope given (argument :: rest) =
      (readOption scope given (Shape.ofArgument argument)).bind (readBehind scope rest) := by
  rw [readOptions]
  split
  · contradiction
  · contradiction
  · cases readOption scope given (Shape.ofArgument argument) with
    | error stop => rfl
    | ok result =>
        obtain ⟨after, slot⟩ := result
        cases slot with
        | none => rfl
        | some slot => cases rest <;> rfl

theorem ne_usage_of_bind {α β : Type} {first : Except Stop α} {next : α → Except Stop β}
    (hsense : first.bind next ≠ .error .usage) : first ≠ .error .usage := by
  rintro rfl
  exact hsense rfl

theorem withoutLogging_word {argument : String} (hword : Shape.ofArgument argument = .word)
    (rest : List String) : withoutLogging (argument :: rest) = argument :: withoutLogging rest := by
  simp [withoutLogging, argumentWithoutLogging, hword]

/-- Nothing is lost of the options in the arguments when those for logging are taken out. -/
def KeepsOptions (scope : Scope) (arguments : List String) : Prop :=
  ∀ given, readOptions scope given arguments ≠ .error .usage →
    readOptions scope given.plain (withoutLogging arguments) =
      (readOptions scope given arguments).map (Prod.map Given.plain withoutLogging)

/-- The value of an option is none for logging, so reading on loses nothing either. -/
theorem readBehind_withoutLogging {scope : Scope} {rest : List String}
    (hkeeps : ∀ arguments, arguments.length ≤ rest.length → KeepsOptions scope arguments)
    {given : Given} {slot : Option Slot}
    (hsense : readBehind scope rest (given, slot) ≠ .error .usage) :
    readBehind scope (withoutLogging rest) (given.plain, slot) =
      (readBehind scope rest (given, slot)).map (Prod.map Given.plain withoutLogging) := by
  cases slot with
  | none => exact hkeeps rest (Nat.le_refl _) given hsense
  | some slot =>
      cases rest with
      | nil => exact absurd rfl hsense
      | cons value rest =>
          by_cases hvalue : Shape.ofArgument value = .word
          · rw [withoutLogging_word hvalue]
            simp only [readBehind, hvalue, if_pos, Given.fill_plain] at hsense ⊢
            cases hfill : given.fill value slot with
            | error stop => rfl
            | ok filled =>
                rw [hfill] at hsense
                exact hkeeps rest (by simp) filled hsense
          · exact absurd (by simp [readBehind, hvalue]) hsense

/-- Options that make sense do so without those for logging. -/
theorem readOptions_withoutLogging (scope : Scope) (arguments : List String) :
    KeepsOptions scope arguments := by
  -- An option may take the argument after it along, so the induction is on the length.
  induction hlength : arguments.length using Nat.strongRecOn generalizing arguments with
  | ind length ih =>
  subst hlength
  intro given hsense
  cases arguments with
  | nil => rfl
  | cons argument rest =>
      have hkeeps : ∀ fewer, fewer.length ≤ rest.length → KeepsOptions scope fewer :=
        fun fewer hfewer => ih fewer.length (Nat.lt_succ_of_le hfewer) fewer rfl
      by_cases hword : Shape.ofArgument argument = .word
      · rw [withoutLogging_word hword]
        simp [readOptions, hword, Except.map, withoutLogging_word hword]
      · by_cases hterminator : Shape.ofArgument argument = .terminator
        · cases rest with
          | nil =>
              simp [withoutLogging, argumentWithoutLogging, readOptions, hterminator, Except.map]
          | cons next rest => exact absurd (by simp [readOptions, hterminator]) hsense
        · rw [readOptions_option hword hterminator] at hsense ⊢
          rcases readOption_withoutLogging (ne_usage_of_bind hsense) with
            ⟨hnone, after, hread, hafter⟩ | ⟨left, hleft, hleftWord, hleftTerminator, hread⟩
          · have hdropped : withoutLogging (argument :: rest) = withoutLogging rest := by
              simp [withoutLogging, hnone]
            rw [hread] at hsense ⊢
            rw [hdropped, ← hafter]
            exact hkeeps rest (Nat.le_refl _) after hsense
          · have hkept : withoutLogging (argument :: rest) = left :: withoutLogging rest := by
              simp [withoutLogging, hleft]
            rw [hkept, readOptions_option hleftWord hleftTerminator, hread]
            cases hresult : readOption scope given (Shape.ofArgument argument) with
            | error stop => rfl
            | ok result =>
                rw [hresult] at hsense
                exact readBehind_withoutLogging hkeeps hsense

/-- Options without a contradiction have none without those for logging. -/
theorem Given.check_plain {given : Given} (hsense : given.check ≠ .error .usage) :
    given.check = .ok () ∧ given.plain.check = .ok () := by
  unfold check at *
  split at hsense
  · exact absurd rfl hsense
  · next hlogging =>
    split at hsense
    · exact absurd rfl hsense
    · next hform => simp [plain, hlogging, hform]

/-- The names of tasks and the word for help look like words. -/
theorem ofArgument_of_mem {word : String} (hword : word ∈ topicNames.map Prod.fst) :
    Shape.ofArgument word = .word := by
  revert word
  decide

theorem mem_of_lookup {α : Type} {word : String} {entries : List (String × α)} {value : α}
    (hlookup : entries.lookup word = some value) : word ∈ entries.map Prod.fst := by
  obtain ⟨before, after, hentries, -⟩ := List.lookup_eq_some_iff.1 hlookup
  simp [hentries]

/-- The name of a task looks like a word. -/
theorem ofArgument_of_task {word : String} {task : Task}
    (hlookup : taskNames.lookup word = some task) : Shape.ofArgument word = .word := by
  refine ofArgument_of_mem ?_
  obtain ⟨entry, hentry, rfl⟩ := List.mem_map.1 (mem_of_lookup hlookup)
  simp only [topicNames, List.map_append, List.map_map]
  exact List.mem_append_left _ (List.mem_map.2 ⟨entry, hentry, rfl⟩)

/-- The invocation without the options for logging. -/
def Invocation.plain (invocation : Invocation) : Invocation :=
  ⟨invocation.task, invocation.outer.plain, invocation.inner.plain⟩

theorem Invocation.ofRest_eq (task : Task) (outer : Given) (arguments : List String) :
    Invocation.ofRest task outer arguments =
      (readOptions (.task task) {} arguments).bind fun (inner, rest) =>
        if !rest.isEmpty then .error .usage
        else inner.check.bind fun _ => outer.check.bind fun _ => .ok ⟨task, outer, inner⟩ := rfl

theorem Invocation.ofArguments_eq (arguments : List String) :
    Invocation.ofArguments arguments =
      (readOptions .command {} arguments).bind fun (outer, rest) =>
        match rest with
        | [] => .error .usage
        | word :: rest => Invocation.ofWord outer word rest := rfl

theorem Invocation.ofRest_withoutLogging {task : Task} {outer : Given} {arguments : List String}
    (hsense : Invocation.ofRest task outer arguments ≠ .error .usage) :
    Invocation.ofRest task outer.plain (withoutLogging arguments) =
      (Invocation.ofRest task outer arguments).map Invocation.plain := by
  rw [ofRest_eq] at hsense
  have hread := readOptions_withoutLogging (.task task) arguments {} (ne_usage_of_bind hsense)
  change readOptions (.task task) {} _ = _ at hread
  rw [ofRest_eq, ofRest_eq, hread]
  cases hinner : readOptions (.task task) {} arguments with
  | error stop => rfl
  | ok result =>
      obtain ⟨inner, rest⟩ := result
      rw [hinner] at hsense
      cases rest with
      | cons argument rest => exact absurd rfl hsense
      | nil =>
          obtain ⟨hinnerOk, hinnerPlain⟩ := Given.check_plain (ne_usage_of_bind hsense)
          have houter : outer.check ≠ .error .usage := by
            intro husage
            simp [Except.bind, hinnerOk, husage] at hsense
          obtain ⟨houterOk, houterPlain⟩ := Given.check_plain houter
          simp [Except.map, Except.bind, withoutLogging, hinnerOk, hinnerPlain, houterOk,
            houterPlain, Invocation.plain]

/-- Words after `help` that lead to some help hold no options for logging. -/
theorem withoutLogging_of_ofHelpWords {words : List String}
    (hsense : Stop.ofHelpWords words ≠ .usage) : withoutLogging words = words := by
  match words with
  | [] => rfl
  | [word] =>
      cases hlookup : topicNames.lookup word with
      | none => exact absurd (by simp [Stop.ofHelpWords, hlookup]) hsense
      | some topic => exact withoutLogging_word (ofArgument_of_mem (mem_of_lookup hlookup)) []
  | _ :: _ :: _ => exact absurd rfl hsense

theorem Invocation.ofWord_withoutLogging {outer : Given} {word : String} {rest : List String}
    (hsense : Invocation.ofWord outer word rest ≠ .error .usage) :
    withoutLogging (word :: rest) = word :: withoutLogging rest ∧
      Invocation.ofWord outer.plain word (withoutLogging rest) =
        (Invocation.ofWord outer word rest).map Invocation.plain := by
  by_cases hhelp : word = "help"
  · simp only [ofWord, if_pos hhelp] at hsense ⊢
    have hwords := withoutLogging_of_ofHelpWords fun husage => hsense (congrArg _ husage)
    exact ⟨withoutLogging_word (by rw [hhelp]; rfl) rest, by rw [hwords]; rfl⟩
  · simp only [ofWord, if_neg hhelp] at hsense ⊢
    cases hlookup : taskNames.lookup word with
    | none => exact absurd (by simp [hlookup]) hsense
    | some task =>
        rw [hlookup] at hsense
        exact ⟨withoutLogging_word (ofArgument_of_task hlookup) rest,
          ofRest_withoutLogging hsense⟩

/-- Arguments that make sense come to the same without the options for logging: to the same
invocation without them, or to the same help. -/
theorem ofArguments_withoutLogging {arguments : List String}
    (hsense : Invocation.ofArguments arguments ≠ .error .usage) :
    Invocation.ofArguments (withoutLogging arguments) =
      (Invocation.ofArguments arguments).map Invocation.plain := by
  rw [Invocation.ofArguments_eq] at hsense
  have hread := readOptions_withoutLogging .command arguments {} (ne_usage_of_bind hsense)
  change readOptions .command {} _ = _ at hread
  rw [Invocation.ofArguments_eq, Invocation.ofArguments_eq, hread]
  cases houter : readOptions .command {} arguments with
  | error stop => rfl
  | ok result =>
      obtain ⟨outer, rest⟩ := result
      rw [houter] at hsense
      cases rest with
      | nil => exact absurd rfl hsense
      | cons word rest =>
          obtain ⟨hword, hinvocation⟩ := Invocation.ofWord_withoutLogging hsense
          simp only [Except.map, Prod.map, Except.bind, hword]
          exact hinvocation

end OpeningTimes.Command

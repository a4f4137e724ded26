/-!
What is left of a text when the control characters of ASCII, and the sequences that an escape
character opens to steer a terminal, are taken out.  White space stays, and outside a sequence so
does every other character.
-/

namespace OpeningTimes.Text

/-- Where in a steering sequence a reader stands. -/
inductive SteeringState where
  /-- Outside every sequence. -/
  | outside
  /-- After the escape character. -/
  | escape
  /-- After the escape character and some marks. -/
  | escapeMarks
  /-- In a control sequence, before its last character. -/
  | control
  /-- At the start of a device command. -/
  | deviceStart
  /-- In the parameters of a device command. -/
  | deviceNumbers
  /-- In the marks after the parameters of a device command. -/
  | deviceMarks
  /-- In a string that a terminator has to end. -/
  | hiddenString
  /-- In a command to the system around the terminal, which a bell may end too. -/
  | systemCommand
deriving DecidableEq, Repr

def codeBetween (first last : Nat) (c : Char) : Bool :=
  decide (first ≤ c.toNat) && decide (c.toNat ≤ last)

/-- Whether the character only moves along or between lines. -/
def isLayout (c : Char) : Bool :=
  c = '\t' || c = '\n' || c = '\x0c' || c = '\r'

/-- Whether the character ends a hidden string.  The terminator is a single byte, and it counts
also inside a longer character. -/
def endsHiddenString (c : Char) : Bool :=
  (String.utf8EncodeChar c).contains 0x9C

/-- Whether the character is kept outside of sequences. -/
def isShown (c : Char) : Bool :=
  isLayout c || (decide (0x20 ≤ c.toNat) && c != '\x7f')

namespace SteeringState

/-- The state after the escape character and one more. -/
def afterEscape (c : Char) : SteeringState :=
  if c = '[' then control
  else if c = ']' then systemCommand
  else if c = 'P' then deviceStart
  else if c = 'X' || c = '^' || c = '_' then hiddenString
  else if codeBetween 0x20 0x2F c then escapeMarks
  else if codeBetween 0x30 0x7E c then outside
  else escape

/-- The state in a device command after one more character, where a parameter may have been
expected. -/
def inDevice (state : SteeringState) (numbers : Nat) (c : Char) : SteeringState :=
  if codeBetween 0x20 0x2F c then deviceMarks
  else if codeBetween 0x30 numbers c then deviceNumbers
  else if codeBetween 0x30 0x7E c then hiddenString
  else state

def next (state : SteeringState) (c : Char) : SteeringState :=
  if c = '\x1b' then escape
  else if c = '\x18' || c = '\x1a' then outside
  else
    match state with
    | outside => outside
    | escape => if isLayout c then outside else afterEscape c
    | escapeMarks => if isLayout c || codeBetween 0x30 0x7E c then outside else escapeMarks
    | control => if isLayout c || codeBetween 0x40 0x7E c then outside else control
    | deviceStart => inDevice deviceStart 0x3F c
    | deviceNumbers => inDevice deviceNumbers 0x3B c
    | deviceMarks => if codeBetween 0x30 0x7E c then hiddenString else deviceMarks
    | hiddenString => if endsHiddenString c then outside else hiddenString
    | systemCommand => if c = '\x07' then outside else systemCommand

/-- Whether a character is kept.  In a sequence only white space is, and in strings not even
that. -/
def keeps : SteeringState → Char → Bool
  | outside, c => isShown c
  | escape, c | escapeMarks, c | control, c => isLayout c
  | _, _ => false

end SteeringState

/-- The characters that are kept when the reader starts in a state. -/
def keptFrom (state : SteeringState) : List Char → List Char
  | [] => []
  | c :: rest =>
      if state.keeps c then c :: keptFrom (state.next c) rest else keptFrom (state.next c) rest

/-- The text without control characters and steering sequences. -/
def withoutSteering (s : String) : String :=
  String.ofList (keptFrom .outside s.toList)

/-- A character that is kept outside of sequences opens none. -/
theorem next_outside_of_isShown {c : Char} (h : isShown c = true) :
    SteeringState.next .outside c = .outside := by
  have hescape : c ≠ '\x1b' := by rintro rfl; revert h; decide
  simp [SteeringState.next, hescape]

/-- A text of shown characters is kept as it is. -/
theorem keptFrom_outside_eq_self {cs : List Char} (h : ∀ c ∈ cs, isShown c = true) :
    keptFrom .outside cs = cs := by
  induction cs with
  | nil => rfl
  | cons c rest ih =>
      have hc : isShown c = true := h c List.mem_cons_self
      have hrest := ih (fun d hd => h d (List.mem_cons_of_mem c hd))
      simp [keptFrom, SteeringState.keeps, hc, next_outside_of_isShown hc, hrest]

end OpeningTimes.Text

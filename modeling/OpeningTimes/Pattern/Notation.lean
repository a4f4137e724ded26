import OpeningTimes.Pattern.Basic

/-!
The notation of patterns.  It is cut into tokens first; the tokens are then put together, with a
stack of the groups that are open.  A token that makes no sense carries its fault along, so that
faults are found from left to right.
-/

namespace OpeningTimes

inductive PatternCause where
  | unclosedGroup
  | unopenedGroup
  | unknownFlag
  | nothingToRepeat
  | unclosedCount
  | badCount
  | unclosedClass
  | badRange
  | endAfterBackslash
  | unknownEscape
  | namedClass
  | anyCase
deriving DecidableEq, Repr

def PatternCause.text : PatternCause → String
  | .unclosedGroup => "unclosed group"
  | .unopenedGroup => "unopened group"
  | .unknownFlag => "unrecognized flag"
  | .nothingToRepeat => "repetition operator missing expression"
  | .unclosedCount => "unclosed counted repetition"
  | .badCount => "invalid repetition count range, the start must be <= the end"
  | .unclosedClass => "unclosed character class"
  | .badRange => "invalid character class range, the start must be <= the end"
  | .endAfterBackslash => "incomplete escape sequence, reached end of pattern prematurely"
  | .unknownEscape => "unrecognized escape sequence"
  | .namedClass =>
      "Unicode-aware Perl class not found (make sure the unicode-perl feature is enabled)"
  | .anyCase =>
      "Unicode-aware case insensitivity matching is not available "
        ++ "(make sure the unicode-case feature is enabled)"

/-- A cause with the part of the notation that it concerns: how many characters are left where
the part begins, and how many it has. -/
structure PatternFault where
  cause : PatternCause
  left : Nat
  width : Nat
deriving DecidableEq, Repr

/-- The fault with the notation quoted and the concerned part underlined. -/
def PatternFault.text (fault : PatternFault) (notated : List Char) : String :=
  "regex parse error:\n    " ++ String.ofList notated ++ "\n    "
    ++ String.ofList (List.replicate (notated.length - fault.left) ' ')
    ++ String.ofList (List.replicate (max 1 fault.width) '^')
    ++ "\nerror: " ++ fault.cause.text

namespace Pattern

inductive Token where
  | piece (pattern : Pattern)
  | opening
  | closing
  | bar
  | times (least : Nat) (most : Option Nat)
  | faulty (fault : PatternFault)

/-- The characters that letters after a backslash stand for. -/
def namedCharacters : List (Char × Char) :=
  [('a', '\x07'), ('f', '\x0c'), ('n', '\n'), ('r', '\r'), ('t', '\t'), ('v', '\x0b')]

/-- The character that a character after a backslash stands for, given what is left from the
backslash on. -/
def escaped (left : Nat) (c : Char) : Except PatternFault Char :=
  match namedCharacters.lookup c with
  | some named => .ok named
  | none =>
      if ['d', 'D', 's', 'S', 'w', 'W'].contains c then .error ⟨.namedClass, left, 2⟩
      else if c.isAlphanum || c = '<' || c = '>' || decide (0x80 ≤ c.toNat) then
        .error ⟨.unknownEscape, left, 2⟩
      else .ok c

/-- Reads one character of a class.  The notation has not ended. -/
def classMember (c : Char) (rest : List Char) : Except PatternFault (Char × List Char) :=
  if c = '\\' then
    match rest with
    | [] => .error ⟨.endAfterBackslash, 1, 1⟩
    | d :: rest => do
        let member ← escaped (rest.length + 2) d
        .ok (member, rest)
  else .ok (c, rest)

/-- Reads the members of a class and its closing bracket, in at most `rounds` steps.  The fault
is the one of a class that is never closed. -/
def classMembers (unclosed : PatternFault) :
    Nat → List Char → Except PatternFault (List Text.CodeSpan × List Char)
  | 0, _ => .error unclosed
  | _ + 1, [] => .error unclosed
  | rounds + 1, c :: rest =>
      if c = ']' then .ok ([], rest)
      else do
        let (low, after) ← classMember c rest
        match after with
        | '-' :: d :: more =>
            if d = ']' || d = '-' then do
              let (spans, after) ← classMembers unclosed rounds after
              .ok (⟨low.toNat, low.toNat⟩ :: spans, after)
            else do
              let (high, after) ← classMember d more
              if high.toNat < low.toNat then
                .error ⟨.badRange, rest.length + 1, rest.length + 1 - after.length⟩
              else do
                let (spans, after) ← classMembers unclosed rounds after
                .ok (⟨low.toNat, high.toNat⟩ :: spans, after)
        | _ => do
            let (spans, after) ← classMembers unclosed rounds after
            .ok (⟨low.toNat, low.toNat⟩ :: spans, after)

/-- Reads a class after its opening bracket.  Hyphens at the start, and a closing bracket in their
place, are members. -/
def classAfter (s : List Char) : Except PatternFault (CharSet × List Char) := do
  let (inverted, inner) :=
    match s with
    | '^' :: inner => (true, inner)
    | _ => (false, s)
  let hyphens := inner.takeWhile (· = '-')
  let inner := inner.dropWhile (· = '-')
  let (literals, inner) :=
    match hyphens, inner with
    | [], ']' :: inner => ([']'], inner)
    | _, _ => (hyphens, inner)
  let unclosed := ⟨.unclosedClass, s.length + 1, s.length + 1 - inner.length⟩
  let (spans, rest) ← classMembers unclosed (inner.length + 1) inner
  .ok (⟨literals.map (fun c => ⟨c.toNat, c.toNat⟩) ++ spans, inverted⟩, rest)

def countOf (digits : List Char) : Nat :=
  digits.foldl (fun n d => n * 10 + (d.toNat - '0'.toNat)) 0

/-- Reads the bounds of a repetition after its opening brace. -/
def boundsAfter (s : List Char) : Except PatternFault (Token × List Char) :=
  let unclosed := ⟨.unclosedCount, s.length + 1, s.length + 1⟩
  let low := s.takeWhile Char.isDigit
  if low.isEmpty then .error unclosed
  else
    match s.dropWhile Char.isDigit with
    | '\x7d' :: rest => .ok (.times (countOf low) (some (countOf low)), rest)
    | ',' :: '\x7d' :: rest => .ok (.times (countOf low) none, rest)
    | ',' :: more =>
        let high := more.takeWhile Char.isDigit
        match more.dropWhile Char.isDigit with
        | '\x7d' :: rest =>
            if high.isEmpty then .error unclosed
            else if countOf high < countOf low then
              .error ⟨.badCount, s.length + 1, s.length + 1 - rest.length⟩
            else .ok (.times (countOf low) (some (countOf high)), rest)
        | _ => .error unclosed
    | _ => .error unclosed

/-- Passes over the mark that makes a repetition prefer few rounds; which rounds are preferred
does not matter for whether a text matches. -/
def withoutPreference : List Char → List Char
  | '?' :: rest => rest
  | s => s

def tokenFrom (c : Char) (s : List Char) : Except PatternFault (Token × List Char) :=
  match c with
  | '|' => .ok (.bar, s)
  | ')' => .ok (.closing, s)
  | '(' =>
      match s with
      | '?' :: ':' :: rest => .ok (.opening, rest)
      | '?' :: 'i' :: ')' :: rest =>
          if rest.isEmpty then .ok (.piece nothing, rest) else .error ⟨.anyCase, rest.length, 1⟩
      | '?' :: rest => .error ⟨.unknownFlag, rest.length, 1⟩
      | _ => .ok (.opening, s)
  | '*' => .ok (.times 0 none, withoutPreference s)
  | '+' => .ok (.times 1 none, withoutPreference s)
  | '?' => .ok (.times 0 (some 1), withoutPreference s)
  | '\x7b' => do
      let (bounds, rest) ← boundsAfter s
      .ok (bounds, withoutPreference rest)
  | '^' => .ok (.piece start, s)
  | '$' => .ok (.piece finish, s)
  | '.' => .ok (.piece (one .withinLine), s)
  | '[' => do
      let (set, rest) ← classAfter s
      .ok (.piece (one set), rest)
  | '\\' =>
      match s with
      | [] => .error ⟨.endAfterBackslash, 1, 1⟩
      | 'A' :: rest => .ok (.piece start, rest)
      | 'z' :: rest => .ok (.piece finish, rest)
      | d :: rest => do
          let meant ← escaped (s.length + 1) d
          .ok (.piece (one (.single meant)), rest)
  | _ => .ok (.piece (one (.single c)), s)

/-- The tokens of a notation, each with the number of characters left where it begins, in at most
`rounds` steps.  After a fault there are no more. -/
def tokensIn : Nat → List Char → List (Token × Nat)
  | 0, _ => []
  | _ + 1, [] => []
  | rounds + 1, c :: s =>
      match tokenFrom c s with
      | .error fault => [(.faulty fault, s.length + 1)]
      | .ok (token, rest) => (token, s.length + 1) :: tokensIn rounds rest

/-- A group that is being read: where it was opened, its alternatives so far and the parts of the
last one, latest first. -/
structure OpenGroup where
  left : Nat
  choices : List Pattern := []
  parts : List Pattern := []

/-- The alternatives of the group, with the parts of the last one put together. -/
def OpenGroup.pattern (group : OpenGroup) : Pattern :=
  group.choices.foldl (fun later choice => either choice later) (sequence group.parts.reverse)

/-- Adds a token to the innermost open group, which may open or close one. -/
def OpenGroup.add (state : OpenGroup × List OpenGroup) (entry : Token × Nat) :
    Except PatternFault (OpenGroup × List OpenGroup) :=
  let (group, outer) := state
  let (token, left) := entry
  match token with
  | .faulty fault => .error fault
  | .piece pattern => .ok (⟨group.left, group.choices, pattern :: group.parts⟩, outer)
  | .bar => .ok (⟨group.left, sequence group.parts.reverse :: group.choices, []⟩, outer)
  | .opening => .ok (⟨left, [], []⟩, group :: outer)
  | .closing =>
      match outer with
      | [] => .error ⟨.unopenedGroup, left, 1⟩
      | parent :: more =>
          .ok (⟨parent.left, parent.choices, group.pattern :: parent.parts⟩, more)
  | .times least most =>
      match group.parts with
      | [] => .error ⟨.nothingToRepeat, left, 1⟩
      | last :: parts => .ok (⟨group.left, group.choices, repeated last least most :: parts⟩, outer)

/-- The pattern that a notation writes. -/
def ofNotation (s : List Char) : Except PatternFault Pattern := do
  let (group, outer) ← (tokensIn (s.length + 1) s).foldlM OpenGroup.add (⟨s.length, [], []⟩, [])
  if outer.isEmpty then .ok group.pattern else .error ⟨.unclosedGroup, group.left, 1⟩

end Pattern

end OpeningTimes

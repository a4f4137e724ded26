import OpeningTimes.Json.Fault

/-!
The lexical level of JSON: blanks, literals and strings.  Every scanner returns what it has read
and what is left.
-/

namespace OpeningTimes.Json

def isBlank (c : Char) : Bool :=
  c == ' ' || c == '\n' || c == '\t' || c == '\r'

/-- The text from the next token on. -/
def skipBlank (s : List Char) : List Char :=
  s.dropWhile isBlank

theorem skipBlank_blank {c : Char} (hblank : isBlank c = true) (s : List Char) :
    skipBlank (c :: s) = skipBlank s := by
  simp [skipBlank, hblank]

theorem skipBlank_token {c : Char} (htoken : isBlank c = false) (s : List Char) :
    skipBlank (c :: s) = c :: s := by
  simp [skipBlank, htoken]

/-- Skipping blanks twice is skipping them once. -/
theorem skipBlank_skipBlank (s : List Char) : skipBlank (skipBlank s) = skipBlank s := by
  induction s with
  | nil => rfl
  | cons c s ih =>
      cases hblank : isBlank c with
      | true => rw [skipBlank_blank hblank, ih]
      | false => rw [skipBlank_token hblank, skipBlank_token hblank]

def literal : List Char → List Char → Except Fault (List Char)
  | [], s => .ok s
  | _ :: _, [] => .error (.here .endInValue [])
  | expected :: more, c :: s =>
      if c = expected then literal more s else .error (.next .expectedLiteral (c :: s))

def hexValue? (c : Char) : Option Nat :=
  if '0' ≤ c ∧ c ≤ '9' then some (c.toNat - '0'.toNat)
  else if 'a' ≤ c ∧ c ≤ 'f' then some (c.toNat - 'a'.toNat + 10)
  else if 'A' ≤ c ∧ c ≤ 'F' then some (c.toNat - 'A'.toNat + 10)
  else none

def fourHex? : List Char → Option (Nat × List Char)
  | a :: b :: c :: d :: s =>
      match hexValue? a, hexValue? b, hexValue? c, hexValue? d with
      | some a, some b, some c, some d => some (((a * 16 + b) * 16 + c) * 16 + d, s)
      | _, _, _, _ => none
  | _ => none

/-- Reads the four digits of a numbered character.  When they are wrong, four bytes count as
read; when fewer bytes are left, the text counts as ended. -/
def hexCode (s : List Char) : Except Fault (Nat × List Char) :=
  match fourHex? s with
  | some (code, rest) => .ok (code, rest)
  | none =>
      if byteLength s < 4 then .error (.here .endInString [])
      else .error ⟨.badEscape, .ahead 4, s⟩

/-- Whether the code unit is the first half of a pair. -/
def isHighSurrogate (code : Nat) : Bool :=
  decide (0xD800 ≤ code) && decide (code ≤ 0xDBFF)

def isLowSurrogate (code : Nat) : Bool :=
  decide (0xDC00 ≤ code) && decide (code ≤ 0xDFFF)

/-- The character that a pair of code units stands for. -/
def pairedChar (high low : Nat) : Char :=
  Char.ofNat (0x10000 + (high - 0xD800) * 0x400 + (low - 0xDC00))

def pairPart (expected : Char) : List Char → Except Fault (List Char)
  | [] => .error (.here .endInString [])
  | c :: s => if c = expected then .ok s else .error (.next .missingSurrogate (c :: s))

/-- Reads a numbered character, in two halves if the first is half of a pair. -/
def numbered (s : List Char) : Except Fault (Char × List Char) := do
  let (code, s) ← hexCode s
  if isLowSurrogate code then .error (.here .loneSurrogate s)
  else if isHighSurrogate code then
    let s ← pairPart '\\' s
    let s ← pairPart 'u' s
    let (low, s) ← hexCode s
    if isLowSurrogate low then .ok (pairedChar code low, s)
    else .error (.here .loneSurrogate s)
  else .ok (Char.ofNat code, s)

theorem literal_append (word rest : List Char) : literal word (word ++ rest) = .ok rest := by
  induction word with
  | nil => rfl
  | cons c word ih => simpa [literal] using ih

/-- The characters that stand for another one after a backslash. -/
def shortEscapes : List (Char × Char) :=
  [('"', '"'), ('\\', '\\'), ('/', '/'), ('b', '\x08'), ('f', '\x0c'), ('n', '\n'),
   ('r', '\r'), ('t', '\t')]

/-- Reads what follows a backslash inside a string. -/
def escaped : List Char → Except Fault (Char × List Char)
  | [] => .error (.here .endInString [])
  | c :: s =>
      match shortEscapes.lookup c with
      | some value => .ok (value, s)
      | none => if c = 'u' then numbered s else .error (.next .badEscape (c :: s))

/-- Whether the character may not stand inside a string as it is. -/
def isControl (c : Char) : Bool :=
  decide (c.toNat < 0x20)

/-- Reads the characters of a string up to its closing quote, in at most `rounds` steps. -/
def stringBody : Nat → List Char → Except Fault (List Char × List Char)
  | 0, s => .error (.here .endInString s)
  | _ + 1, [] => .error (.here .endInString [])
  | rounds + 1, c :: s =>
      if c = '"' then .ok ([], s)
      else if c = '\\' then do
        let (value, s) ← escaped s
        let (body, s) ← stringBody rounds s
        .ok (value :: body, s)
      else if isControl c then .error (.next .controlCharacter (c :: s))
      else do
        let (body, s) ← stringBody rounds s
        .ok (c :: body, s)

/-- A character that stands for itself. -/
theorem stringBody_plain {c : Char} (hquote : c ≠ '"') (hslash : c ≠ '\\')
    (hcontrol : isControl c = false) (rounds : Nat) (s : List Char) :
    stringBody (rounds + 1) (c :: s)
      = (stringBody rounds s).bind (fun (body, s) => .ok (c :: body, s)) := by
  simp [stringBody, hquote, hslash, hcontrol]
  rfl

/-- A character that is written with a backslash. -/
theorem stringBody_escaped {c : Char} {t s : List Char} (hescaped : escaped t = .ok (c, s))
    (rounds : Nat) :
    stringBody (rounds + 1) ('\\' :: t)
      = (stringBody rounds s).bind (fun (body, s) => .ok (c :: body, s)) := by
  simp [stringBody, hescaped]
  rfl

theorem stringBody_quote (rounds : Nat) (s : List Char) :
    stringBody (rounds + 1) ('"' :: s) = .ok ([], s) := by
  simp [stringBody]

/-- Reads a string after its opening quote.  Every step reads a character, so the length of the
text bounds their number. -/
def stringTail (s : List Char) : Except Fault (String × List Char) := do
  let (body, s) ← stringBody (s.length + 1) s
  .ok (String.ofList body, s)

end OpeningTimes.Json

import OpeningTimes.Json.Number

/-!
Passing over a value of any shape.  The value has to be well-formed JSON, but nothing of it is
kept: numbers may have any size, and the two halves of a paired character need not match.
-/

namespace OpeningTimes.Json

def skipEscaped : List Char → Except Fault (List Char)
  | [] => .error (.here .endInString [])
  | c :: s =>
      match shortEscapes.lookup c with
      | some _ => .ok s
      | none =>
          if c = 'u' then do
            let (_, s) ← hexCode s
            .ok s
          else .error (.next .badEscape (c :: s))

/-- Passes over the characters of a string and its closing quote, in at most `rounds` steps. -/
def skipStringBody : Nat → List Char → Except Fault (List Char)
  | 0, s => .error (.here .endInString s)
  | _ + 1, [] => .error (.here .endInString [])
  | rounds + 1, c :: s =>
      if c = '"' then .ok s
      else if c = '\\' then do
        let s ← skipEscaped s
        skipStringBody rounds s
      else if isControl c then .error (.here .controlCharacter (c :: s))
      else skipStringBody rounds s

def skipStringTail (s : List Char) : Except Fault (List Char) :=
  skipStringBody (s.length + 1) s

def colon (s : List Char) : Except Fault (List Char) :=
  match skipBlank s with
  | [] => .error (.next .endInObject [])
  | c :: rest => if c = ':' then .ok rest else .error (.next .expectedColon (c :: rest))

/-- Passes over a literal, a number or a string, of which the first character is given apart. -/
def skipScalar (c : Char) (s : List Char) : Except Fault (List Char) :=
  if c = 'n' then literal ['u', 'l', 'l'] s
  else if c = 't' then literal ['r', 'u', 'e'] s
  else if c = 'f' then literal ['a', 'l', 's', 'e'] s
  else if c = '"' then skipStringTail s
  else if c = '-' || isDigit c then do
    let (_, rest) ← numberText .badNumber (c :: s)
    .ok rest
  else .error (.next .expectedValue (c :: s))

mutual

/-- Passes over a value, in at most `rounds` steps. -/
def skipValueIn : Nat → List Char → Except Fault (List Char)
  | 0, s => .error (.here .endInValue s)
  | rounds + 1, s =>
      match skipBlank s with
      | [] => .error (.next .endInValue [])
      | c :: s =>
          if c = '[' then
            match skipBlank s with
            | [] => .error (.next .endInList [])
            | d :: rest => if d = ']' then .ok rest else skipElementsIn rounds (d :: rest)
          else if c = '\x7b' then
            match skipBlank s with
            | [] => .error (.next .endInObject [])
            | d :: rest => if d = '\x7d' then .ok rest else skipMembersIn rounds (d :: rest)
          else skipScalar c s

/-- Passes over the elements of a list and its closing bracket. -/
def skipElementsIn : Nat → List Char → Except Fault (List Char)
  | 0, s => .error (.here .endInList s)
  | rounds + 1, s => do
      let s ← skipValueIn rounds s
      match skipBlank s with
      | [] => .error (.next .endInList [])
      | c :: rest =>
          if c = ',' then skipElementsIn rounds rest
          else if c = ']' then .ok rest
          else .error (.next .expectedListComma (c :: rest))

/-- Passes over the members of an object and its closing brace. -/
def skipMembersIn : Nat → List Char → Except Fault (List Char)
  | 0, s => .error (.here .endInObject s)
  | rounds + 1, s =>
      match skipBlank s with
      | [] => .error (.next .endInObject [])
      | quote :: s =>
          if quote ≠ '"' then .error (.next .keyNotString (quote :: s))
          else do
            let s ← skipStringTail s
            let s ← colon s
            let s ← skipValueIn rounds s
            match skipBlank s with
            | [] => .error (.next .endInObject [])
            | c :: rest =>
                if c = ',' then skipMembersIn rounds rest
                else if c = '\x7d' then .ok rest
                else .error (.next .expectedObjectComma (c :: rest))

end

/-- Passes over a value.  Every value and every element takes at least one character, so twice the
length of the text bounds the number of nested steps. -/
def skipValue (s : List Char) : Except Fault (List Char) :=
  skipValueIn (2 * s.length + 2) s

end OpeningTimes.Json

import OpeningTimes.Json.Skip

/-!
Decoders.  A decoder reads one value of a given type from the front of a text and returns it with
the text that is left, or a fault.  The type decides what may stand there, so every decoder is
built for its type and a value of another type is refused by the same rule everywhere.
-/

namespace OpeningTimes.Json

abbrev Decoder (α : Type) :=
  List Char → Except Fault (α × List Char)

namespace Decoder

/-- The fault of a value that is given at the front of the text and has the wrong type.  A scalar
counts as read, unless it is malformed itself; a list or an object does not. -/
def mistaken (wanted : Wanted) (s : List Char) : Fault :=
  let after (found : Found) (rest : Except Fault (List Char)) : Fault :=
    match rest with
    | .error fault => fault
    | .ok rest => .here (.wrongType found wanted) rest
  match s with
  | [] => .next .endInValue []
  | c :: rest =>
      if c = 'n' then after .null (literal ['u', 'l', 'l'] rest)
      else if c = 't' then after (.boolean true) (literal ['r', 'u', 'e'] rest)
      else if c = 'f' then after (.boolean false) (literal ['a', 'l', 's', 'e'] rest)
      else if c = '-' || isDigit c then
        match number s with
        | .error fault => fault
        | .ok (.integer value, rest) => .here (.wrongType (.integer value) wanted) rest
        | .ok (.double bits, rest) => .here (.wrongType (.double bits) wanted) rest
      else if c = '"' then
        match stringTail rest with
        | .error fault => fault
        | .ok (value, rest) => .here (.wrongType (.string value) wanted) rest
      else if c = '[' then .here (.wrongType .sequence wanted) s
      else if c = '\x7b' then .here (.wrongType .map wanted) s
      else .next .expectedValue s

def boolean : Decoder Bool := fun s =>
  match skipBlank s with
  | 't' :: rest => do
      let rest ← literal ['r', 'u', 'e'] rest
      .ok (true, rest)
  | 'f' :: rest => do
      let rest ← literal ['a', 'l', 's', 'e'] rest
      .ok (false, rest)
  | s => .error (mistaken .boolean s)

def string : Decoder String := fun s =>
  match skipBlank s with
  | '"' :: rest => stringTail rest
  | s => .error (mistaken .string s)

/-- Reads the null that stands for the only value of a type that has nothing to say. -/
def unit : Decoder Unit := fun s =>
  match skipBlank s with
  | 'n' :: rest => do
      let rest ← literal ['u', 'l', 'l'] rest
      .ok ((), rest)
  | s => .error (mistaken .unit s)

def integerBetween (low high : Int) (wanted : Wanted) : Decoder Int := fun s =>
  match skipBlank s with
  | [] => .error (.next .endInValue [])
  | c :: rest =>
      if c = '-' || isDigit c then do
        match ← number (c :: rest) with
        | (.double bits, rest) => .error (.here (.wrongType (.double bits) wanted) rest)
        | (.integer value, rest) =>
            if low ≤ value ∧ value ≤ high then .ok (value, rest)
            else .error (.here (.integerOutOfRange value wanted) rest)
      else .error (mistaken wanted (c :: rest))

def map {α β : Type} (f : α → β) (read : Decoder α) : Decoder β := fun s =>
  match read s with
  | .error fault => .error fault
  | .ok (value, rest) => .ok (f value, rest)

def uint8 : Decoder UInt8 :=
  map (fun value => UInt8.ofNat value.toNat) (integerBetween 0 255 .uint8)

def uint16 : Decoder UInt16 :=
  map (fun value => UInt16.ofNat value.toNat) (integerBetween 0 65535 .uint16)

def int8 : Decoder Int8 :=
  map Int8.ofInt (integerBetween (-128) 127 .int8)

def int16 : Decoder Int16 :=
  map Int16.ofInt (integerBetween (-32768) 32767 .int16)

/-- Reads a value that may be absent, which null stands for. -/
def optional {α : Type} (read : Decoder α) : Decoder (Option α) := fun s =>
  match skipBlank s with
  | 'n' :: rest => do
      let rest ← literal ['u', 'l', 'l'] rest
      .ok (none, rest)
  | s => map some read s

/-- The text after the end of a list.  A list that is given up somewhere else ends here too: its
closing bracket is passed over if it stands next, and else a comma and the blanks after it. -/
def closeList (s : List Char) : List Char :=
  match skipBlank s with
  | ']' :: rest => rest
  | ',' :: rest => skipBlank rest
  | s => s

/-- The text after the end of an object.  An object that is given up somewhere else ends here too:
its closing brace is passed over if it stands next. -/
def closeObject (s : List Char) : List Char :=
  match skipBlank s with
  | '\x7d' :: rest => rest
  | s => s

/-- Looks for the next element of a list: nothing when the list closes here, and else the text
from the element on.  All elements but the first follow a comma. -/
def nextElement (first : Bool) (s : List Char) : Except Fault (Option (List Char)) :=
  match skipBlank s with
  | [] => .error (.next .endInList [])
  | c :: rest =>
      if c = ']' then .ok none
      else if first then .ok (some (c :: rest))
      else if c = ',' then
        match skipBlank rest with
        | [] => .error (.next .endInValue [])
        | d :: rest =>
            if d = ']' then .error (.next .trailingComma (d :: rest)) else .ok (some (d :: rest))
      else .error (.next .expectedListComma (c :: rest))

/-- Reads the elements of a list, in at most `rounds` steps; the closing bracket is left. -/
def elementsIn {α : Type} (read : Decoder α) : Nat → Bool → Decoder (List α)
  | 0, _, s => .error (.here .endInList s)
  | rounds + 1, first, s => do
      match ← nextElement first s with
      | none => .ok ([], s)
      | some s =>
          let (value, s) ← read s
          let (values, s) ← elementsIn read rounds false s
          .ok (value :: values, s)

/-- Reads a list of values.  Every element takes at least one character, so the length of the text
bounds their number. -/
def list {α : Type} (read : Decoder α) : Decoder (List α) := fun s =>
  match skipBlank s with
  | '[' :: rest =>
      match elementsIn read (rest.length + 1) true rest with
      | .error fault => .error (fault.enclosed closeList)
      | .ok (values, rest) => .ok (values, closeList rest)
  | s => .error (mistaken .sequence s)

/-- Looks a name up, and refuses it with the text that is left when it is not known. -/
def variant {α : Type} (names : List (String × α)) (name : String) (rest : List Char) :
    Except Fault α :=
  match names.lookup name with
  | some value => .ok value
  | none => .error (.here (.unknownName name (names.map Prod.fst)) rest)

/-- Reads one of several named values: its name as a string, or an object whose only key is the
name and whose value is null. -/
def oneOf {α : Type} (names : List (String × α)) : Decoder α := fun s =>
  match skipBlank s with
  | [] => .error (.next .endInValue [])
  | '"' :: rest => do
      let (name, rest) ← stringTail rest
      let value ← variant names name rest
      .ok (value, rest)
  | '\x7b' :: rest =>
      match skipBlank rest with
      | [] => .error (.next .endInObject [])
      | '"' :: rest => do
          let (name, rest) ← stringTail rest
          let value ← variant names name rest
          let rest ← colon rest
          let (_, rest) ← unit rest
          match skipBlank rest with
          | [] => .error (.here .endInObject [])
          | '\x7d' :: rest => .ok (value, rest)
          | rest => .error (.here .expectedValue rest)
      | '\x7d' :: rest => .error (.next .expectedValue ('\x7d' :: rest))
      | rest => .error (.next .keyNotString rest)
  | s => .error (.next .expectedValue s)

/-- Reads a text that consists of one value and blanks. -/
def whole {α : Type} (read : Decoder α) (text : List Char) : Except Fault α := do
  let (value, rest) ← read text
  match skipBlank rest with
  | [] => .ok value
  | rest => .error (.next .trailingText rest)

def decode {α : Type} (read : Decoder α) (text : String) : Except Refusal α :=
  match whole read text.toList with
  | .ok value => .ok value
  | .error fault => .error (fault.locate text.toList)

end Decoder

end OpeningTimes.Json

import OpeningTimes.Double.Text
import OpeningTimes.Text.Quoted

/-!
What can be wrong with a text that should be JSON of a given shape.  A fault has a cause, the
text that was left when it was found, and a place relative to that text; the place becomes a line
and a column when the whole text is known.
-/

namespace OpeningTimes.Json

/-- What stands where a value of another type should be. -/
inductive Found where
  | null
  | boolean (value : Bool)
  | integer (value : Int)
  /-- A number with a fraction or an exponent or too large for an integer, as the bits of a
  double. -/
  | double (bits : UInt64)
  | string (value : String)
  | sequence
  | map
deriving DecidableEq, Repr

inductive Wanted where
  | uint8
  | uint16
  | int8
  | int16
  | boolean
  | string
  | sequence
  | record (name : String)
  | unit
deriving DecidableEq, Repr

inductive Cause where
  | endInValue
  | endInString
  | endInList
  | endInObject
  | expectedValue
  | expectedLiteral
  | expectedColon
  | expectedListComma
  | expectedObjectComma
  | keyNotString
  | trailingComma
  | trailingText
  | badNumber
  | numberOutOfRange
  | controlCharacter
  | badEscape
  | loneSurrogate
  | missingSurrogate
  | wrongType (found : Found) (wanted : Wanted)
  | integerOutOfRange (value : Int) (wanted : Wanted)
  | unknownName (name : String) (names : List String)
  | repeatedField (name : String)
  | missingField (name : String)
  | tooFewElements (present : Nat) (record : String) (fields : Nat)
  /-- The value was read, but it stands for nothing; the report says why. -/
  | refused (report : String)
deriving DecidableEq, Repr

/-- A line, counted from one, and a column, counted in bytes from zero. -/
structure Position where
  line : Nat
  column : Nat
deriving DecidableEq, Repr

inductive Place where
  /-- A number of bytes after the start of what is left, but not after its end. -/
  | ahead (bytes : Nat)
  /-- Wherever the list or object that encloses the value can be closed. -/
  | unplaced
  /-- At a position that the cause brings with it. -/
  | given (position : Position)
deriving DecidableEq, Repr

structure Fault where
  cause : Cause
  place : Place
  rest : List Char
deriving DecidableEq, Repr

/-- The fault at the start of what is left. -/
def Fault.here (cause : Cause) (rest : List Char) : Fault :=
  ⟨cause, .ahead 0, rest⟩

/-- The fault one byte after the start of what is left. -/
def Fault.next (cause : Cause) (rest : List Char) : Fault :=
  ⟨cause, .ahead 1, rest⟩

/-- The fault as the enclosing list or object hands it on: an unplaced fault gets its place where
`close` leaves off, and any other keeps its own. -/
def Fault.enclosed (close : List Char → List Char) (fault : Fault) : Fault :=
  match fault.place with
  | .unplaced => .here fault.cause (close fault.rest)
  | _ => fault

/-- No fault is unplaced once a list or an object has handed it on. -/
theorem Fault.place_enclosed_ne (close : List Char → List Char) (fault : Fault) :
    (fault.enclosed close).place ≠ .unplaced := by
  unfold Fault.enclosed
  split
  · simp [Fault.here]
  · next hplaced => exact hplaced

/-- Enclosing a fault leaves its cause alone. -/
theorem Fault.cause_enclosed (close : List Char → List Char) (fault : Fault) :
    (fault.enclosed close).cause = fault.cause := by
  unfold Fault.enclosed
  split <;> rfl

def Position.after (position : Position) (c : Char) : Position :=
  if c = '\n' then ⟨position.line + 1, 0⟩ else ⟨position.line, position.column + c.utf8Size⟩

/-- The position a number of bytes further into a text, but not after its end.  Inside a character
of several bytes every byte has a column of its own. -/
def Position.advance (position : Position) (bytes : Nat) : List Char → Position
  | [] => position
  | c :: rest =>
      if bytes < c.utf8Size then ⟨position.line, position.column + bytes⟩
      else (position.after c).advance (bytes - c.utf8Size) rest

/-- The number of bytes of a text. -/
def byteLength : List Char → Nat
  | [] => 0
  | c :: rest => c.utf8Size + byteLength rest

structure Refusal where
  cause : Cause
  position : Option Position
deriving DecidableEq, Repr

def Fault.locate (text : List Char) (fault : Fault) : Refusal :=
  match fault.place with
  | .ahead bytes =>
      let read := byteLength text - byteLength fault.rest
      ⟨fault.cause, some ((Position.mk 1 0).advance (read + bytes) text)⟩
  | .unplaced => ⟨fault.cause, none⟩
  | .given position => ⟨fault.cause, some position⟩

end OpeningTimes.Json

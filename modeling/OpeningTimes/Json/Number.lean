import OpeningTimes.Json.Scan

/-!
Numbers.  A number is first read as text, that is as a sign and up to three lists of digits, and
then valued: as an integer when it is written as one and fits into 64 bits, and as a double
otherwise.
-/

namespace OpeningTimes.Json

/-- The digits of a number as they are written. -/
structure NumberText where
  negative : Bool
  whole : List Char
  fraction : Option (List Char) := none
  /-- Whether the exponent is negative, and its digits. -/
  exponent : Option (Bool × List Char) := none
deriving DecidableEq, Repr

inductive Number where
  | integer (value : Int)
  | double (bits : UInt64)
deriving DecidableEq, Repr

/-- Whether the character is one of the ten digits. -/
def isDigit (c : Char) : Bool :=
  decide ('0' ≤ c) && decide (c ≤ '9')

/-- Reads digits as long as there are any. -/
def digits (s : List Char) : List Char × List Char :=
  (s.takeWhile isDigit, s.dropWhile isDigit)

/-- Reads at least one digit.  The cause `cut` is reported where the text ends instead. -/
def someDigits (cut : Cause) (s : List Char) : Except Fault (List Char × List Char) :=
  match s with
  | [] => .error (.here cut [])
  | c :: _ => if isDigit c then .ok (digits s) else .error (.next .badNumber s)

/-- Reads the digits before the point.  A zero in front has to stand alone. -/
def wholePart (cut : Cause) (s : List Char) : Except Fault (List Char × List Char) := do
  match ← someDigits cut s with
  | ('0' :: _ :: _, _) => .error (.next .badNumber (s.drop 1))
  | found => .ok found

/-- Reads the point and the digits after it, if there is a point. -/
def fractionPart (cut : Cause) : List Char → Except Fault (Option (List Char) × List Char)
  | '.' :: s => do
      let (found, s) ← someDigits cut s
      .ok (some found, s)
  | s => .ok (none, s)

/-- Reads a sign, if there is one; the answer tells whether it is a minus sign. -/
def signPart : List Char → Bool × List Char
  | '-' :: s => (true, s)
  | '+' :: s => (false, s)
  | s => (false, s)

/-- Reads the mark, the sign and the digits of an exponent, if there is a mark. -/
def exponentPart (cut : Cause) (s : List Char) :
    Except Fault (Option (Bool × List Char) × List Char) :=
  match s with
  | [] => .ok (none, s)
  | c :: rest =>
      if c = 'e' ∨ c = 'E' then do
        let (negative, rest) := signPart rest
        let (found, rest) ← someDigits cut rest
        .ok (some (negative, found), rest)
      else .ok (none, s)

/-- Reads a number from its minus sign or first digit on. -/
def numberText (cut : Cause) (s : List Char) : Except Fault (NumberText × List Char) := do
  let (negative, s) :=
    match s with
    | '-' :: rest => (true, rest)
    | _ => (false, s)
  let (whole, s) ← wholePart cut s
  let (fraction, s) ← fractionPart cut s
  let (exponent, s) ← exponentPart cut s
  .ok (⟨negative, whole, fraction, exponent⟩, s)

def digitValue (c : Char) : Nat :=
  c.toNat - '0'.toNat

/-- Appends digits to a number as long as the result does not exceed the limit.  The answer is the
number and the digits that were not taken. -/
def appendDigits (limit : Nat) (value : Nat) : List Char → Nat × List Char
  | [] => (value, [])
  | c :: rest =>
      let next := value * 10 + digitValue c
      if limit < next then (value, c :: rest) else appendDigits limit next rest

/-- The largest integer that is read as such. -/
def maxInteger : Nat :=
  Nat.pow 2 64 - 1

/-- The largest magnitude of a negative integer that is read as such. -/
def maxNegative : Nat :=
  Nat.pow 2 63

/-- The largest exponent that is read as written. -/
def maxExponent : Nat :=
  Nat.pow 2 31 - 1

/-- The double next to a power of ten. -/
def tenTo (exponent : Nat) : Float :=
  Float.ofScientific 1 false exponent

def maxPower : Nat :=
  308

/-- Divides by the largest power of ten a number of times, or until nothing is left. -/
def divideLargest : Nat → Float → Float
  | 0, value => value
  | times + 1, value =>
      if value == 0 then value else divideLargest times (value / tenTo maxPower)

/-- A significand times a power of ten, or nothing if that is too large for a double.  The number
of divisions by the largest power is the least that leaves a power that is a double. -/
def scaled? (significand : Nat) (exponent : Int) : Option Float :=
  let value := (UInt64.ofNat significand).toFloat
  if 0 ≤ exponent then
    if exponent.toNat ≤ maxPower then
      let product := value * tenTo exponent.toNat
      if product.isInf then none else some product
    else if value == 0 then some value else none
  else
    let size := (-exponent).toNat
    let times := (size - 1) / maxPower
    let reduced := divideLargest times value
    if reduced == 0 then some reduced else some (reduced / tenTo (size - times * maxPower))

def signed (negative : Bool) (value : Float) : Number :=
  .double (if negative then -value else value).toBits

/-- The exponent after the digits of an exponent have been added to it or taken from it, kept
within 32 bits. -/
def shifted (start : Int) (negative : Bool) (size : Nat) : Int :=
  if negative then max (start - size) (-(maxExponent : Int) - 1) else min (start + size) maxExponent

/-- The value of a number as a double.  When it is too large the answer is the number of digits at
its end that were not needed to see that. -/
def NumberText.double (text : NumberText) : Except Nat Number :=
  let (fromWhole, dropped) := appendDigits maxInteger 0 text.whole
  let fraction := text.fraction.getD []
  let (significand, unused) := appendDigits maxInteger fromWhole fraction
  let start := (dropped.length : Int) - ((fraction.length - unused.length : Nat) : Int)
  let finish (exponent : Int) : Except Nat Number :=
    match scaled? significand exponent with
    | some value => .ok (signed text.negative value)
    | none => .error 0
  match text.exponent with
  | none => finish start
  | some (negative, found) =>
      match appendDigits maxExponent 0 found with
      | (size, []) => finish (shifted start negative size)
      | (_, _ :: unread) =>
          if significand ≠ 0 ∧ negative = false then .error unread.length
          else .ok (signed text.negative 0)

/-- The value of a number.  Only a number without fraction and exponent can be an integer, and
negative zero is none. -/
def NumberText.value (text : NumberText) : Except Nat Number :=
  match text.fraction, text.exponent, appendDigits maxInteger 0 text.whole with
  | none, none, (size, []) =>
      if text.negative then
        if size = 0 ∨ maxNegative < size then text.double else .ok (.integer (-(size : Int)))
      else .ok (.integer size)
  | _, _, _ => text.double

/-- The digits at the end of the exponent that were not needed, followed by what is left. -/
def NumberText.unread (text : NumberText) (count : Nat) (rest : List Char) : List Char :=
  match text.exponent with
  | none => rest
  | some (_, found) => found.drop (found.length - count) ++ rest

def number (s : List Char) : Except Fault (Number × List Char) := do
  let (text, rest) ← numberText .endInValue s
  match text.value with
  | .ok value => .ok (value, rest)
  | .error count => .error (.here .numberOutOfRange (text.unread count rest))

end OpeningTimes.Json

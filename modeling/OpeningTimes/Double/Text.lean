import OpeningTimes.Double.Shortest

/-!
The text of a double in a message: the fewest digits that read back, written out in full when
the first digit stands between the fifth place after the point and the sixteenth before it, and
with an exponent otherwise.
-/

namespace OpeningTimes.Double

/-- The smallest exponent of the first digit for which a number is written out in full. -/
def plainFrom : Int := -5

/-- The largest exponent of the first digit for which a number is written out in full. -/
def plainTo : Int := 15

def zeros (count : Nat) : List Char :=
  List.replicate count '0'

/-- The digits with the point after `whole` of them, and at least one digit after the point. -/
def withPoint (digits : List Char) (whole : Nat) : List Char :=
  if digits.length ≤ whole then digits ++ zeros (whole - digits.length) ++ ['.', '0']
  else digits.take whole ++ ['.'] ++ digits.drop whole

/-- The digits with the point after the first of them, if there are more. -/
def scientificDigits : List Char → List Char
  | [] => []
  | [digit] => [digit]
  | digit :: rest => digit :: '.' :: rest

def exponentText (exponent : Int) : List Char :=
  if exponent < 0 then 'e' :: '-' :: (toString (-exponent)).toList
  else 'e' :: '+' :: (toString exponent).toList

def Decimal.text (decimal : Decimal) : List Char :=
  let digits := Nat.toDigits 10 decimal.digits
  let first : Int := decimal.exponent + Int.ofNat digits.length - 1
  if plainFrom ≤ first ∧ first ≤ plainTo then
    if first < 0 then '0' :: '.' :: (zeros (-first - 1).toNat ++ digits)
    else withPoint digits (first.toNat + 1)
  else scientificDigits digits ++ exponentText first

/-- The text of the double with these bits.  It has to be finite. -/
def text (bits : UInt64) : String :=
  let sign := if bits.toNat / Nat.pow 2 63 = 1 then ['-'] else []
  let magnitude :=
    match shortest? (Magnitude.ofBits bits) with
    | some decimal => decimal.text
    | none => ['0', '.', '0']
  String.ofList (sign ++ magnitude)

end OpeningTimes.Double

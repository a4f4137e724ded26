/-!
The shortest decimal of a double.  Among all decimals that round to a given double the one on the
coarsest power-of-ten grid is taken, and of two such the nearer.  On every grid only the two
neighbours of the value need to be looked at, so the search is exact arithmetic on natural
numbers.
-/

namespace OpeningTimes.Double

/-- A magnitude `significand * 2 ^ exponent`.  The gap to the next smaller double is half as wide
as the gap to the next larger one when `narrowBelow` holds. -/
structure Magnitude where
  significand : Nat
  exponent : Int
  narrowBelow : Bool
deriving DecidableEq, Repr

/-- A decimal `digits * 10 ^ exponent`. -/
structure Decimal where
  digits : Nat
  exponent : Int
deriving DecidableEq, Repr

/-- The magnitude of the double with these bits; the sign is ignored. -/
def Magnitude.ofBits (bits : UInt64) : Magnitude :=
  let unit := Nat.pow 2 52
  let fraction := bits.toNat % unit
  let biased := bits.toNat / unit % Nat.pow 2 11
  if biased = 0 then ⟨fraction, -1074, false⟩
  else ⟨unit + fraction, Int.ofNat biased - 1075, fraction == 0 && biased != 1⟩

/-- The power of a base, or one when the exponent is not positive. -/
def power (base : Nat) (exponent : Int) : Nat :=
  Nat.pow base exponent.toNat

/-- The decimal on the grid `10 ^ grid` that rounds to the value, if there is one.  Everything is
compared after multiplying by the same denominators; the value is four quarters of a unit, so
that both ends of its rounding interval are whole.  The ends belong to the interval when the
significand is even. -/
def nearestOnGrid (value : Magnitude) (grid : Int) : Option Decimal :=
  let scale := power 2 (value.exponent - 2) * power 10 (-grid)
  let unit := power 2 (2 - value.exponent) * power 10 grid
  let middle := 4 * value.significand * scale
  let low := (4 * value.significand - (if value.narrowBelow then 1 else 2)) * scale
  let high := (4 * value.significand + 2) * scale
  let inside : Nat → Bool := fun point =>
    if value.significand % 2 = 0 then decide (low ≤ point * unit) && decide (point * unit ≤ high)
    else decide (low < point * unit) && decide (point * unit < high)
  let below := middle / unit
  let above := below + 1
  let toBelow := middle - below * unit
  let toAbove := above * unit - middle
  let preferBelow := decide (toBelow < toAbove) || (toBelow == toAbove && below % 2 == 0)
  if inside below && below != 0 && (preferBelow || !inside above) then some ⟨below, grid⟩
  else if inside above then some ⟨above, grid⟩
  else none

/-- The grids from coarse to fine.  No double is as large as `10 ^ 310`, and `10 ^ -343` tells
every double from its neighbours. -/
def grids : List Int :=
  (List.range 654).map (fun step => 310 - Int.ofNat step)

/-- The decimal on the coarsest grid that rounds to the value; zero has none. -/
def shortest? (value : Magnitude) : Option Decimal :=
  if value.significand = 0 then none else grids.findSome? (nearestOnGrid value)

end OpeningTimes.Double

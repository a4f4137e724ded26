/-!
Numbers as the grammar writes them: plain decimals, fields of two digits, numbers whose sign is
always shown, and lists held together by commas.
-/

namespace OpeningTimes.Text

/-- A number in decimal, with a zero in front when it has a single digit. -/
def twoDigits (n : Nat) : String :=
  if n < 10 then "0" ++ toString n else toString n

/-- A number in decimal whose sign is written even when it is not negative. -/
def withSign (n : Int) : String :=
  if n < 0 then toString n else "+" ++ toString n

/-- Texts in order with a comma between neighbours. -/
def commaList (items : List String) : String :=
  String.intercalate "," items

end OpeningTimes.Text

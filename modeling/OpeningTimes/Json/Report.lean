import OpeningTimes.Json.Number

/-!
Reports of values that were read but stand for nothing.  The fault has no place of its own, unless
the report ends in one.
-/

namespace OpeningTimes.Json

def lineWords : List Char := " at line ".toList

def columnWords : List Char := " column ".toList

/-- The rest of a text after its start, if it starts so. -/
def afterStart? : List Char → List Char → Option (List Char)
  | [], s => some s
  | _ :: _, [] => none
  | expected :: more, c :: s => if c = expected then afterStart? more s else none

/-- A number of at least one digit that fits into 64 bits, and what follows it. -/
def leadingNumber? (s : List Char) : Option (Nat × List Char) :=
  match digits s with
  | ([], _) => none
  | (found, rest) =>
      match appendDigits maxInteger 0 found with
      | (value, []) => some (value, rest)
      | _ => none

/-- The position that a text consists of, in the words of a report. -/
def positionOf? (s : List Char) : Option Position := do
  let s ← afterStart? lineWords s
  let (line, s) ← leadingNumber? s
  let s ← afterStart? columnWords s
  let (column, s) ← leadingNumber? s
  if s.isEmpty then some ⟨line, column⟩ else none

/-- Cuts a text where the words that introduce a line stand for the last time. -/
def cutAtLastLine? : List Char → Option (List Char × List Char)
  | [] => none
  | c :: s =>
      match cutAtLastLine? s with
      | some (before, after) => some (c :: before, after)
      | none => if (afterStart? lineWords (c :: s)).isSome then some ([], c :: s) else none

/-- What a report says and the position that it ends in, if it does. -/
def splitReport? (report : List Char) : Option (List Char × Position) := do
  let (before, after) ← cutAtLastLine? report
  let position ← positionOf? after
  some (before, position)

/-- The fault of a value that stands for nothing, found when `rest` is left.  A report that ends in
a position is taken at its word and loses that ending, but line zero is no position. -/
def Fault.refused (report : String) (rest : List Char) : Fault :=
  match splitReport? report.toList with
  | none => ⟨.refused report, .unplaced, rest⟩
  | some (before, position) =>
      let place := if position.line = 0 then Place.unplaced else .given position
      ⟨.refused (String.ofList before), place, rest⟩

end OpeningTimes.Json

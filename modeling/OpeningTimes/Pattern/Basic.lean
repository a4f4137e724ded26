import OpeningTimes.Text.CodeSpan

/-!
Patterns for parts of texts.  A pattern is understood through the places where a match may end
that starts at a given place; it is found in a text when some place has an end.
-/

namespace OpeningTimes

/-- The characters in some spans, or all characters outside of them. -/
structure CharSet where
  spans : List Text.CodeSpan
  inverted : Bool := false
deriving DecidableEq, Repr

namespace CharSet

def contains (set : CharSet) (c : Char) : Bool :=
  Text.inSpans set.spans c != set.inverted

def single (c : Char) : CharSet :=
  ⟨[⟨c.toNat, c.toNat⟩], false⟩

/-- All characters that do not break a line. -/
def withinLine : CharSet :=
  ⟨[⟨0x0A, 0x0A⟩], true⟩

end CharSet

inductive Pattern where
  /-- The empty part. -/
  | nothing
  /-- One character of a set. -/
  | one (set : CharSet)
  /-- The empty part at the start of the text. -/
  | start
  /-- The empty part at the end of the text. -/
  | finish
  /-- A part for each of two patterns, the second right after the first. -/
  | both (left right : Pattern)
  /-- A part for one of two patterns. -/
  | either (left right : Pattern)
  /-- Parts for the same pattern in a row, as many as the bounds allow. -/
  | repeated (body : Pattern) (least : Nat) (most : Option Nat)
deriving DecidableEq, Repr

namespace Pattern

/-- All patterns in a row. -/
def sequence : List Pattern → Pattern
  | [] => nothing
  | [pattern] => pattern
  | pattern :: rest => both pattern (sequence rest)

/-- The places after a number of rounds. -/
def afterRounds (round : List Nat → List Nat) : Nat → List Nat → List Nat
  | 0, places => places
  | rounds + 1, places => afterRounds round rounds (round places)

/-- The places after any number of rounds up to a limit. -/
def withinRounds (round : List Nat → List Nat) : Nat → List Nat → List Nat
  | 0, places => places
  | limit + 1, places => places ++ withinRounds round limit (round places)

/-- The number of rounds that is enough for a text: every round after that could be left out or
done once more, since some round before it has not moved. -/
def enoughRounds (text : Array Char) : Option Nat → Nat
  | some rounds => min rounds (text.size + 1)
  | none => text.size + 1

/-- The places where a match may end that starts at a place. -/
def ends (text : Array Char) : Pattern → Nat → List Nat
  | nothing, place => [place]
  | one set, place =>
      match text[place]? with
      | some c => if set.contains c then [place + 1] else []
      | none => []
  | start, place => if place = 0 then [place] else []
  | finish, place => if place = text.size then [place] else []
  | both left right, place =>
      ((ends text left place).flatMap (fun middle => ends text right middle)).eraseDups
  | either left right, place => (ends text left place ++ ends text right place).eraseDups
  | repeated body least most, place =>
      let round places := (places.flatMap (fun middle => ends text body middle)).eraseDups
      let first := afterRounds round (enoughRounds text (some least)) [place]
      (withinRounds round (enoughRounds text (most.map (· - least))) first).eraseDups

/-- Whether some part of the text matches. -/
def foundIn (pattern : Pattern) (s : String) : Bool :=
  let text := s.toList.toArray
  (List.range (text.size + 1)).any (fun place => !(ends text pattern place).isEmpty)

end Pattern

end OpeningTimes

import OpeningTimes.Text.Case

/-!
The days of the week and their two-letter abbreviations.  English abbreviations are read in any
case, and so are the four German ones that differ from them.
-/

namespace OpeningTimes

inductive Weekday where
  | monday
  | tuesday
  | wednesday
  | thursday
  | friday
  | saturday
  | sunday
deriving DecidableEq, Repr

namespace Weekday

/-- The two-letter English abbreviation. -/
def abbreviation : Weekday → String
  | monday => "Mo"
  | tuesday => "Tu"
  | wednesday => "We"
  | thursday => "Th"
  | friday => "Fr"
  | saturday => "Sa"
  | sunday => "Su"

/-- The days of the week from Monday on. -/
def all : List Weekday :=
  [monday, tuesday, wednesday, thursday, friday, saturday, sunday]

def fromMonday : Weekday → Nat
  | monday => 0
  | tuesday => 1
  | wednesday => 2
  | thursday => 3
  | friday => 4
  | saturday => 5
  | sunday => 6

/-- The German abbreviations in small letters, except the one for Sunday. -/
def german : List (String × Weekday) :=
  [("mo", monday), ("di", tuesday), ("mi", wednesday), ("do", thursday),
   ("fr", friday), ("sa", saturday)]

/-- The day that a German abbreviation in any case stands for.  Every text that is not one of
the first six counts as Sunday. -/
def ofGerman (s : String) : Weekday :=
  (german.lookup (Text.lowerCase s)).getD sunday

/-- The capitalized German abbreviations that are not English ones too. -/
def germanOnly : List String :=
  ["Di", "Mi", "Do", "So"]

/-- The day that an English or German abbreviation in any case stands for. -/
def ofAbbreviation? (s : String) : Option Weekday :=
  let written := Text.capitalize s
  match all.find? (fun day => day.abbreviation == written) with
  | some day => some day
  | none => if germanOnly.contains written then some (ofGerman s) else none

def report (s : String) : String :=
  "Invalid weekday: " ++ s

theorem report_eq (s : String) : report s = "Invalid weekday: " ++ s := rfl

theorem mem_all (day : Weekday) : day ∈ all := by
  cases day <;> decide

end Weekday

end OpeningTimes

/-!
The months of the year and their three-letter names.
-/

namespace OpeningTimes

inductive Month where
  | january
  | february
  | march
  | april
  | may
  | june
  | july
  | august
  | september
  | october
  | november
  | december
deriving DecidableEq, Repr

namespace Month

/-- The three-letter name of the month. -/
def name : Month → String
  | january => "Jan"
  | february => "Feb"
  | march => "Mar"
  | april => "Apr"
  | may => "May"
  | june => "Jun"
  | july => "Jul"
  | august => "Aug"
  | september => "Sep"
  | october => "Oct"
  | november => "Nov"
  | december => "Dec"

def all : List Month :=
  [january, february, march, april, may, june,
   july, august, september, october, november, december]

/-- The place of the month in the year, counted from zero. -/
def index : Month → Nat
  | january => 0
  | february => 1
  | march => 2
  | april => 3
  | may => 4
  | june => 5
  | july => 6
  | august => 7
  | september => 8
  | october => 9
  | november => 10
  | december => 11

/-- The month with exactly this name; capitals and blanks count. -/
def ofName? (name : String) : Option Month :=
  all.find? (fun month => month.name == name)

def names : List String :=
  all.map Month.name

/-- Months in calendar order, each as often as it occurs. -/
def sorted (months : List Month) : List Month :=
  months.mergeSort (fun left right => decide (left.index ≤ right.index))

theorem ofName?_name (month : Month) : ofName? month.name = some month := by
  cases month <;> decide

end Month

end OpeningTimes

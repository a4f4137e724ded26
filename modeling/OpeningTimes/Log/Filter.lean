import OpeningTimes.Log.Record
import OpeningTimes.Pattern.Basic

/-!
Which log records are shown.  A filter has a threshold for all records and thresholds for some
targets; the longest target that a record's target starts with decides.  A filter may also ask
for a pattern, which then has to be found in the text of a record.
-/

namespace OpeningTimes

/-- The least urgent level that is shown, or that nothing is. -/
inductive Threshold where
  | off
  | upTo (level : Level)
deriving DecidableEq, Repr

namespace Threshold

/-- Whether a record of this level is shown. -/
def shows : Threshold → Level → Bool
  | off, _ => false
  | upTo limit, level => decide (level.rank ≤ limit.rank)

theorem shows_upTo_iff (limit level : Level) :
    (upTo limit).shows level = true ↔ level.rank ≤ limit.rank := by
  simp [shows]

end Threshold

/-- A threshold for all records, thresholds for the targets that start with some texts, and a
pattern that the texts of records have to show if there is one. -/
structure LogFilter where
  general : Threshold := .upTo .warn
  targets : List (String × Threshold) := []
  pattern : Option Pattern := none
deriving DecidableEq, Repr

namespace LogFilter

/-- The filter with a threshold for a target, which takes the place of another one for it. -/
def setTarget (filter : LogFilter) (start : String) (threshold : Threshold) : LogFilter :=
  { filter with
    targets := filter.targets.filter (fun entry => entry.1 != start) ++ [(start, threshold)] }

/-- The longer of two texts with thresholds; the second when they are equally long. -/
def longer (left right : String × Threshold) : String × Threshold :=
  if right.1.length < left.1.length then left else right

def threshold (filter : LogFilter) (target : String) : Threshold :=
  match filter.targets.filter (fun entry => entry.1.toList.isPrefixOf target.toList) with
  | [] => filter.general
  | first :: rest => (rest.foldl longer first).2

def shows (filter : LogFilter) (record : LogRecord) : Bool :=
  (filter.threshold record.target).shows record.level
    && filter.pattern.all (fun pattern => pattern.foundIn record.text)

/-- A filter without a pattern shows what its thresholds show. -/
theorem shows_of_pattern_eq_none {filter : LogFilter} (h : filter.pattern = none)
    (record : LogRecord) :
    filter.shows record = (filter.threshold record.target).shows record.level := by
  simp [shows, h]

end LogFilter

end OpeningTimes

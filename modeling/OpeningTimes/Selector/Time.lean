import OpeningTimes.Selector.Date

/-!
Selectors of times of day.  Times are counted in minutes from midnight and may run past the end
of the day.
-/

namespace OpeningTimes

/-- A time of day or a span of times.  An open end and an interval may be given too. -/
structure TimeSpan where
  start : UInt16
  stop : Option UInt16 := none
  openEnded : Bool := false
  interval : Option UInt16 := none
deriving DecidableEq, Repr

/-- Minutes from midnight as hours and minutes of two digits each; hours do not wrap at the end
of the day and have more digits when they need them. -/
def clockText (minutes : UInt16) : String :=
  Text.twoDigits (minutes.toNat / 60) ++ ":" ++ Text.twoDigits (minutes.toNat % 60)

/-- Times are written `10:00`, `08:00-12:00`, `18:00+` or `10:00-16:00/01:30`. -/
def TimeSpan.text (span : TimeSpan) : String :=
  clockText span.start
    ++ optionalText span.stop (fun stop => "-" ++ clockText stop)
    ++ (if span.openEnded then "+" else "")
    ++ optionalText span.interval (fun interval => "/" ++ clockText interval)

end OpeningTimes

import OpeningTimes.Log.Filter
import OpeningTimes.Text.Pieces
import OpeningTimes.Text.Terminal

/-!
The lines in which log records are shown.
-/

namespace OpeningTimes

/-- The name of a level, filled up with blanks to five characters. -/
def Level.padded (level : Level) : String :=
  level.name ++ String.ofList (List.replicate (5 - level.name.length) ' ')

/-- The line of a record.  Line breaks in its text are followed by four blanks, and whatever would
steer a terminal is taken out. -/
def LogRecord.line (record : LogRecord) : String :=
  Text.withoutSteering
    ("[" ++ record.level.padded ++ " " ++ record.target ++ "] "
      ++ Text.indented "    " record.text ++ "\n")

def LogFilter.shownLines (filter : LogFilter) (records : List LogRecord) : String :=
  String.join ((records.filter filter.shows).map LogRecord.line)

end OpeningTimes

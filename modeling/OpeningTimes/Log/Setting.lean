import OpeningTimes.Log.Filter
import OpeningTimes.Pattern.Notation
import OpeningTimes.Text.Pieces

/-!
Settings for log records.  A setting is a list of entries, which give thresholds, and perhaps a
pattern behind a slash.  What cannot be read is complained about and then ignored.
-/

namespace OpeningTimes

namespace Threshold

/-- The thresholds by their names in small letters. -/
def names : List (String × Threshold) :=
  [("off", off), ("error", upTo .error), ("warn", upTo .warn), ("info", upTo .info),
   ("debug", upTo .debug), ("trace", upTo .trace)]

/-- The threshold with a name; capital letters do not matter. -/
def ofName? (name : List Char) : Option Threshold :=
  names.lookup (String.ofList (name.map Char.toLower))

end Threshold

inductive SettingFault where
  /-- More than one slash. -/
  | manySlashes (setting : String)
  /-- An entry of no known form, or what should have been a level in one. -/
  | unreadable (piece : String)
  /-- A pattern whose notation is wrong. -/
  | badPattern (fault : PatternFault) (notated : List Char)
deriving DecidableEq, Repr

def SettingFault.text : SettingFault → String
  | .manySlashes setting => "invalid logging spec '" ++ setting ++ "' (too many '/'s)"
  | .unreadable piece => "invalid logging spec '" ++ piece ++ "'"
  | .badPattern fault notated => "invalid regex filter - " ++ fault.text notated

/-- The line that tells the user about a fault. -/
def SettingFault.line (fault : SettingFault) : String :=
  "warning: " ++ fault.text ++ ", ignoring it\n"

/-- One entry of a setting: a threshold for everything, or for the targets that start with a
text. -/
inductive SettingEntry where
  | general (threshold : Threshold)
  | target (start : String) (threshold : Threshold)
deriving DecidableEq, Repr

/-- The entry that a piece of a setting gives.  A piece that is neither a level nor a target with
a level shows all records of the target that it names. -/
def SettingEntry.ofPiece (piece : List Char) : Except SettingFault SettingEntry :=
  match Text.pieces '=' piece with
  | [name] =>
      match Threshold.ofName? name with
      | some threshold => .ok (.general threshold)
      | none => .ok (.target (String.ofList name) (.upTo .trace))
  | [start, level] =>
      let level := Text.trimmed level
      if level.isEmpty then .ok (.target (String.ofList start) (.upTo .trace))
      else
        match Threshold.ofName? level with
        | some threshold => .ok (.target (String.ofList start) threshold)
        | none => .error (.unreadable (String.ofList level))
  | _ => .error (.unreadable (String.ofList piece))

/-- The filter with a new entry, which takes the place of an entry for the same target. -/
def LogFilter.add (filter : LogFilter) : SettingEntry → LogFilter
  | .general threshold => { filter with general := threshold }
  | .target start threshold => filter.setTarget start threshold

/-- A filter and what was wrong with the setting that it comes from, in order. -/
structure LogSetting where
  filter : LogFilter := {}
  faults : List SettingFault := []
deriving DecidableEq, Repr

namespace LogSetting

/-- The setting with one more piece.  White space around it and empty pieces do not count. -/
def addPiece (setting : LogSetting) (piece : List Char) : LogSetting :=
  let piece := Text.trimmed piece
  if piece.isEmpty then setting
  else
    match SettingEntry.ofPiece piece with
    | .ok entry => { setting with filter := setting.filter.add entry }
    | .error fault => { setting with faults := setting.faults ++ [fault] }

def addEntries (setting : LogSetting) (entries : List Char) : LogSetting :=
  (Text.pieces ',' entries).foldl addPiece setting

def addPattern (setting : LogSetting) (notated : List Char) : LogSetting :=
  match Pattern.ofNotation notated with
  | .ok pattern => { setting with filter := { setting.filter with pattern := some pattern } }
  | .error fault => { setting with faults := setting.faults ++ [.badPattern fault notated] }

def ofText (s : String) : LogSetting :=
  match Text.pieces '/' s.toList with
  | [entries] => addEntries {} entries
  | [entries, pattern] => (addEntries {} entries).addPattern pattern
  | _ => { faults := [.manySlashes s] }

def warnings (setting : LogSetting) : String :=
  String.join (setting.faults.map SettingFault.line)

end LogSetting

end OpeningTimes

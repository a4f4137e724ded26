/-!
JSON trees and their two written forms: compact, without any blanks, and spread over lines with
two blanks for every level.
-/

namespace OpeningTimes

/-- A JSON tree.  Members of objects keep their order. -/
inductive Json where
  | boolean (value : Bool)
  | integer (value : Int)
  | string (value : String)
  | list (items : List Json)
  | object (members : List (String × Json))
deriving Repr

namespace Json

def fourDigits (n : Nat) : List Char :=
  let digit (n : Nat) : Char := Nat.digitChar (n % 16)
  [digit (n / 4096), digit (n / 256), digit (n / 16), digit n]

def escapeChar (c : Char) : List Char :=
  if c = '"' then ['\\', '"']
  else if c = '\\' then ['\\', '\\']
  else if c = '\x08' then ['\\', 'b']
  else if c = '\x0c' then ['\\', 'f']
  else if c = '\n' then ['\\', 'n']
  else if c = '\r' then ['\\', 'r']
  else if c = '\t' then ['\\', 't']
  else if c.toNat < 0x20 then '\\' :: 'u' :: fourDigits c.toNat
  else [c]

def stringText (s : String) : String :=
  String.ofList ('"' :: s.toList.flatMap escapeChar ++ ['"'])

mutual

/-- The tree without any blanks. -/
def compact : Json → String
  | .boolean value => if value then "true" else "false"
  | .integer value => toString value
  | .string value => stringText value
  | .list items => "[" ++ compactItems items ++ "]"
  | .object members => "\x7b" ++ compactMembers members ++ "\x7d"

/-- Trees with commas between them. -/
def compactItems : List Json → String
  | [] => ""
  | [item] => item.compact
  | item :: rest => item.compact ++ "," ++ compactItems rest

/-- Members with commas between them. -/
def compactMembers : List (String × Json) → String
  | [] => ""
  | [(key, value)] => stringText key ++ ":" ++ value.compact
  | (key, value) :: rest =>
      stringText key ++ ":" ++ value.compact ++ "," ++ compactMembers rest

end

def newLine (level : Nat) : String :=
  String.ofList ('\n' :: List.replicate (2 * level) ' ')

mutual

/-- The tree spread over lines, standing at a level.  Empty lists and objects stay on one line. -/
def pretty (level : Nat) : Json → String
  | .boolean value => if value then "true" else "false"
  | .integer value => toString value
  | .string value => stringText value
  | .list [] => "[]"
  | .list items => "[" ++ prettyItems (level + 1) items ++ newLine level ++ "]"
  | .object [] => "\x7b\x7d"
  | .object members => "\x7b" ++ prettyMembers (level + 1) members ++ newLine level ++ "\x7d"

/-- Trees on lines of their own with commas between them. -/
def prettyItems (level : Nat) : List Json → String
  | [] => ""
  | [item] => newLine level ++ item.pretty level
  | item :: rest => newLine level ++ item.pretty level ++ "," ++ prettyItems level rest

/-- Members on lines of their own with commas between them. -/
def prettyMembers (level : Nat) : List (String × Json) → String
  | [] => ""
  | [(key, value)] => newLine level ++ stringText key ++ ": " ++ value.pretty level
  | (key, value) :: rest =>
      newLine level ++ stringText key ++ ": " ++ value.pretty level ++ ","
        ++ prettyMembers level rest

end

end Json

end OpeningTimes

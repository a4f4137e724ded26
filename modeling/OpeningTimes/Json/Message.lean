import OpeningTimes.Json.Fault

/-!
The wording of faults.
-/

namespace OpeningTimes.Json

/-- A name between backquotes. -/
def named (name : String) : String :=
  "`" ++ name ++ "`"

/-- What was found, in words. -/
def Found.text : Found → String
  | .null => "null"
  | .boolean value => "boolean " ++ named (if value then "true" else "false")
  | .integer value => "integer " ++ named (toString value)
  | .double bits => "floating point " ++ named (Double.text bits)
  | .string value => "string " ++ Text.quoted value
  | .sequence => "sequence"
  | .map => "map"

def Wanted.text : Wanted → String
  | .uint8 => "u8"
  | .uint16 => "u16"
  | .int8 => "i8"
  | .int16 => "i16"
  | .boolean => "a boolean"
  | .string => "a string"
  | .sequence => "a sequence"
  | .record name => "struct " ++ name
  | .unit => "unit"

/-- The names of which one was expected. -/
def choiceText (names : List String) : String :=
  match names with
  | [left, right] => named left ++ " or " ++ named right
  | _ => "one of " ++ String.intercalate ", " (names.map named)

def Cause.text : Cause → String
  | .endInValue => "EOF while parsing a value"
  | .endInString => "EOF while parsing a string"
  | .endInList => "EOF while parsing a list"
  | .endInObject => "EOF while parsing an object"
  | .expectedValue => "expected value"
  | .expectedLiteral => "expected ident"
  | .expectedColon => "expected `:`"
  | .expectedListComma => "expected `,` or `]`"
  | .expectedObjectComma => "expected `,` or `\x7d`"
  | .keyNotString => "key must be a string"
  | .trailingComma => "trailing comma"
  | .trailingText => "trailing characters"
  | .badNumber => "invalid number"
  | .numberOutOfRange => "number out of range"
  | .controlCharacter =>
      "control character (\\u0000-\\u001F) found while parsing a string"
  | .badEscape => "invalid escape"
  | .loneSurrogate => "lone leading surrogate in hex escape"
  | .missingSurrogate => "unexpected end of hex escape"
  | .wrongType found wanted => "invalid type: " ++ found.text ++ ", expected " ++ wanted.text
  | .integerOutOfRange value wanted =>
      "invalid value: integer " ++ named (toString value) ++ ", expected " ++ wanted.text
  | .unknownName name names =>
      "unknown variant " ++ named name ++ ", expected " ++ choiceText names
  | .repeatedField name => "duplicate field " ++ named name
  | .missingField name => "missing field " ++ named name
  | .tooFewElements present record fields =>
      "invalid length " ++ toString present ++ ", expected struct " ++ record ++ " with "
        ++ toString fields ++ " elements"
  | .refused report => report

def Refusal.text (refusal : Refusal) : String :=
  match refusal.position with
  | none => refusal.cause.text
  | some position =>
      refusal.cause.text ++ " at line " ++ toString position.line ++ " column "
        ++ toString position.column

end OpeningTimes.Json

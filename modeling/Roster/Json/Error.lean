import Roster.Decimal.Shortest
import Roster.Text.Quoted

/-!
# Why a document cannot be read

A document is refused either for its form, or because it holds something other than what is asked
for, or because a record lacks a field or has one twice.
-/

namespace Roster.Json

/-- What stands where something else was asked for. -/
inductive Found where
  | null
  | boolean (value : Bool)
  | integer (value : Int)
  | real (value : Float)
  | text (value : String)
  | list
  | record

/-- Why a document cannot be read. -/
inductive ReadError where
  | endInList
  | endInObject
  | endInText
  | endInValue
  | expectedColon
  | expectedListCommaOrEnd
  | expectedObjectCommaOrEnd
  | expectedName
  | expectedValue
  | invalidEscape
  | invalidNumber
  | numberOutOfRange
  | controlCharacter
  | keyNotText
  | loneSurrogate
  | trailingComma
  | trailingCharacters
  | unpairedSurrogate
  | nestedTooDeep
  | unexpectedType (found : Found) (expected : String)
  | unexpectedValue (found : Found) (expected : String)
  | wrongLength (length : Nat) (expected : String)
  | missingField (name : String)
  | duplicateField (name : String)

/-- The description of what was found. -/
def Found.description : Found → String
  | .null => "null"
  | .boolean value => "boolean `" ++ (if value then "true" else "false") ++ "`"
  | .integer value => "integer `" ++ toString value ++ "`"
  | .real value => "floating point `" ++ (Decimal.shortest value).getD "null" ++ "`"
  | .text value => "string " ++ Text.quoted value
  | .list => "sequence"
  | .record => "map"

/-- The text of the error. -/
def ReadError.message : ReadError → String
  | .endInList => "EOF while parsing a list"
  | .endInObject => "EOF while parsing an object"
  | .endInText => "EOF while parsing a string"
  | .endInValue => "EOF while parsing a value"
  | .expectedColon => "expected `:`"
  | .expectedListCommaOrEnd => "expected `,` or `]`"
  | .expectedObjectCommaOrEnd => "expected `,` or `\x7d`"
  | .expectedName => "expected ident"
  | .expectedValue => "expected value"
  | .invalidEscape => "invalid escape"
  | .invalidNumber => "invalid number"
  | .numberOutOfRange => "number out of range"
  | .controlCharacter => "control character (\\u0000-\\u001F) found while parsing a string"
  | .keyNotText => "key must be a string"
  | .loneSurrogate => "lone leading surrogate in hex escape"
  | .trailingComma => "trailing comma"
  | .trailingCharacters => "trailing characters"
  | .unpairedSurrogate => "unexpected end of hex escape"
  | .nestedTooDeep => "recursion limit exceeded"
  | .unexpectedType found expected =>
    "invalid type: " ++ found.description ++ ", expected " ++ expected
  | .unexpectedValue found expected =>
    "invalid value: " ++ found.description ++ ", expected " ++ expected
  | .wrongLength length expected =>
    "invalid length " ++ toString length ++ ", expected " ++ expected
  | .missingField name => "missing field `" ++ name ++ "`"
  | .duplicateField name => "duplicate field `" ++ name ++ "`"

end Roster.Json

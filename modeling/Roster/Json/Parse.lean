import Roster.Json.Decode
import Roster.Json.Value

/-!
# Reading documents of any kind

The reading side of the document tree. Lists and records nest at most 127 deep, and of two fields
with one name the later one counts.
-/

namespace Roster.Json

/-- A number as a document. -/
def Reader.Number.document : Reader.Number → Json
  | .natural value => .integer value
  | .negative value => .integer value
  | .real value => .real value

/-- The fields without those that are named again later. -/
def lastOfEach : List (String × Json) → List (String × Json)
  | [] => []
  | field :: rest =>
    if rest.any fun f => f.1 == field.1 then lastOfEach rest else field :: lastOfEach rest

/-- A document in which lists and records nest less than `depth` deep. -/
def Reader.value : Nat → Reader Json
  | 0 => fail .nestedTooDeep
  | depth + 1 => do
    match ← peekPastBlanks with
    | none => fail .endInValue
    | some c =>
      if c == 'n' then do skip; name "ull".toList; return .null
      else if c == 't' then do skip; name "rue".toList; return .boolean true
      else if c == 'f' then do skip; name "alse".toList; return .boolean false
      else if c == '-' then do skip; return (← number false).document
      else if c.isDigit then do return (← number true).document
      else if c == '"' then do skip; return .text (← text)
      else if c == '[' then
        if depth == 0 then fail .nestedTooDeep
        else
          skip
          let found ← items (value depth) ((← get).length + 1) true
          endOfList
          return .list found
      else if c == '\x7b' then
        if depth == 0 then fail .nestedTooDeep
        else
          skip
          let found ← entries (value depth) ((← get).length + 1) true
          endOfRecord
          return .record (lastOfEach found)
      else fail .expectedValue

/-- Reads a document. -/
def parse (s : String) : Except ReadError Json :=
  (Reader.value 128).whole s

end Roster.Json

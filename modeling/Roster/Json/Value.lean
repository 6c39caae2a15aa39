import Roster.Decimal.Shortest
import Roster.Text.Quoted

/-!
# Documents

A document is a tree of lists and records over texts, numbers and the three constants. It is written
either in one line or with every element on a line of its own. Numbers with a fraction are written
with the fewest digits that read back, and a number that is not finite is written as a null.
-/

namespace Roster

/-- A document. The fields of a record keep their order. -/
inductive Json where
  | null
  | boolean (value : Bool)
  | integer (value : Int)
  | real (value : Float)
  | text (value : String)
  | list (items : List Json)
  | record (fields : List (String × Json))

namespace Json

/-- How one character of a text is written: quotes, backslashes and controls are escaped. -/
def escapedChar (c : Char) : List Char :=
  if c == '"' then ['\\', '"']
  else if c == '\\' then ['\\', '\\']
  else if c.toNat == 0x08 then ['\\', 'b']
  else if c == '\t' then ['\\', 't']
  else if c == '\n' then ['\\', 'n']
  else if c.toNat == 0x0C then ['\\', 'f']
  else if c == '\r' then ['\\', 'r']
  else if c.toNat < 0x20 then
    ['\\', 'u', '0', '0'] ++ (if c.toNat < 0x10 then ['0'] else []) ++ Text.hexDigits c.toNat
  else [c]

/-- A text with its quotes. -/
def writtenText (s : String) : List Char :=
  '"' :: s.toList.flatMap escapedChar ++ ['"']

/-- A number with a fraction. -/
def writtenReal (x : Float) : List Char :=
  ((Decimal.shortest x).getD "null").toList

/-- Joins written parts with commas. -/
def commaSeparated : List (List Char) → List Char
  | [] => []
  | [part] => part
  | part :: rest => part ++ ',' :: commaSeparated rest

mutual

/-- The document in one line, without blanks. -/
def written : Json → List Char
  | .null => "null".toList
  | .boolean value => (if value then "true" else "false").toList
  | .integer value => (toString value).toList
  | .real value => writtenReal value
  | .text value => writtenText value
  | .list items => '[' :: commaSeparated (writtenItems items) ++ [']']
  | .record fields => '\x7b' :: commaSeparated (writtenFields fields) ++ ['\x7d']

/-- Every item in one line. -/
def writtenItems : List Json → List (List Char)
  | [] => []
  | item :: rest => written item :: writtenItems rest

/-- Every field in one line, its name before a colon. -/
def writtenFields : List (String × Json) → List (List Char)
  | [] => []
  | (name, value) :: rest => (writtenText name ++ ':' :: written value) :: writtenFields rest

end

/-- The document in one line. -/
def compact (document : Json) : String :=
  String.ofList document.written

/-- A line break and the blanks of nesting depth `depth`. -/
def newLine (depth : Nat) : List Char :=
  '\n' :: List.replicate (2 * depth) ' '

/-- Joins written parts with a comma and a line break, inside a pair of brackets; nothing stands
between the brackets of an empty list. -/
def onLines (depth : Nat) (opening closing : Char) (parts : List (List Char)) : List Char :=
  if parts.isEmpty then [opening, closing]
  else opening :: newLine (depth + 1) ++
    List.intercalate (',' :: newLine (depth + 1)) parts ++ newLine depth ++ [closing]

mutual

/-- The document with every element on a line of its own, at nesting depth `depth`. -/
def indented (depth : Nat) : Json → List Char
  | .list items => onLines depth '[' ']' (indentedItems (depth + 1) items)
  | .record fields => onLines depth '\x7b' '\x7d' (indentedFields (depth + 1) fields)
  | .null => written .null
  | .boolean value => written (.boolean value)
  | .integer value => written (.integer value)
  | .real value => written (.real value)
  | .text value => written (.text value)

/-- Every item at nesting depth `depth`. -/
def indentedItems (depth : Nat) : List Json → List (List Char)
  | [] => []
  | item :: rest => indented depth item :: indentedItems depth rest

/-- Every field at nesting depth `depth`. -/
def indentedFields (depth : Nat) : List (String × Json) → List (List Char)
  | [] => []
  | (name, value) :: rest =>
    (writtenText name ++ ':' :: ' ' :: indented depth value) :: indentedFields depth rest

end

/-- The document with every element on a line of its own. -/
def pretty (document : Json) : String :=
  String.ofList (document.indented 0)

/-- An absent value is a null. -/
def ofOption {α : Type} (encode : α → Json) : Option α → Json
  | none => .null
  | some value => encode value

/-- The value of a field, when the document is a record that has it. -/
def field? (document : Json) (name : String) : Option Json :=
  match document with
  | .record fields => (fields.find? fun f => f.1 == name).map Prod.snd
  | _ => none

end Json

end Roster

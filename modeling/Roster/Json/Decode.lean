import Roster.Json.Reader

/-!
# Reading typed values

A reader for each kind of value that records are made of, and the reading of records themselves. A
record is written with its fields by name or, in order, as a list; fields that nobody knows are
passed over, and a known field may stand only once.
-/

namespace Roster.Json

namespace Reader

/-- Refuses the value that follows, since `expected` was asked for. -/
def unexpected {α : Type} (expected : String) : Reader α := do
  match ← peekPastBlanks with
  | none => fail .endInValue
  | some c =>
    if c == 'n' then do skip; name "ull".toList; fail (.unexpectedType .null expected)
    else if c == 't' then do skip; name "rue".toList; fail (.unexpectedType (.boolean true) expected)
    else if c == 'f' then do skip; name "alse".toList; fail (.unexpectedType (.boolean false) expected)
    else if c == '-' then do skip; fail (.unexpectedType (← number false).found expected)
    else if c.isDigit then do fail (.unexpectedType (← number true).found expected)
    else if c == '"' then do skip; fail (.unexpectedType (.text (← text)) expected)
    else if c == '[' then fail (.unexpectedType .list expected)
    else if c == '\x7b' then fail (.unexpectedType .record expected)
    else fail .expectedValue

/-- A number of any kind, or `none` before anything else. -/
def number? : Reader (Option Number) := do
  match ← peekPastBlanks with
  | none => fail .endInValue
  | some c =>
    if c == '-' then do skip; return some (← number false)
    else if c.isDigit then return some (← number true)
    else return none

/-- A whole number of 64 bits with a sign. -/
def signed : Reader Int := do
  match ← number? with
  | none => unexpected "i64"
  | some (.natural value) =>
    if value < 0x8000000000000000 then return value
    else fail (.unexpectedValue (.integer value) "i64")
  | some (.negative value) => return value
  | some (.real value) => fail (.unexpectedType (.real value) "i64")

/-- A double; a whole number counts as one. -/
def double : Reader Float := do
  match ← number? with
  | none => unexpected "f64"
  | some (.natural value) => return value.toUInt64.toFloat
  | some (.negative value) => return -value.natAbs.toUInt64.toFloat
  | some (.real value) => return value

/-- One of the two truth values. -/
def boolean : Reader Bool := do
  match ← peekPastBlanks with
  | some 't' => do skip; name "rue".toList; return true
  | some 'f' => do skip; name "alse".toList; return false
  | _ => unexpected "a boolean"

/-- A text with its quotes. -/
def quotedText : Reader String := do
  match ← peekPastBlanks with
  | some '"' => do skip; text
  | _ => unexpected "a string"

/-- A value that may be a null. -/
def optional {α : Type} (value : Reader α) : Reader (Option α) := do
  match ← peekPastBlanks with
  | some 'n' => do skip; name "ull".toList; return none
  | _ => return some (← value)

/-! ## Lists -/

/-- Whether a list goes on; `first` says that no item has been read. The comma is taken. -/
def hasItem (first : Bool) : Reader Bool := do
  match ← peekPastBlanks with
  | none => fail .endInList
  | some c =>
    if c == ']' then return false
    else if first then return true
    else if c == ',' then
      skip
      match ← peekPastBlanks with
      | none => fail .endInValue
      | some c => if c == ']' then fail .trailingComma else return true
    else fail .expectedListCommaOrEnd

/-- The end of a list of which nothing more is asked. -/
def endOfList : Reader Unit := do
  match ← peekPastBlanks with
  | none => fail .endInList
  | some c =>
    if c == ']' then skip
    else if c == ',' then
      skip
      match ← peekPastBlanks with
      | some ']' => fail .trailingComma
      | _ => fail .trailingCharacters
    else fail .trailingCharacters

/-- The items of a list up to its end. -/
def items {α : Type} (item : Reader α) : Nat → Bool → Reader (List α)
  | 0, _ => fail .endInList
  | fuel + 1, first => do
    if ← hasItem first then
      let value ← item
      return value :: (← items item fuel false)
    else return []

/-- A list of values of one kind. -/
def listOf {α : Type} (item : Reader α) : Reader (List α) := do
  match ← peekPastBlanks with
  | some '[' =>
    skip
    let values ← items item ((← get).length + 1) true
    endOfList
    return values
  | _ => unexpected "a sequence"

/-! ## Records -/

/-- Whether a record goes on; `first` says that no field has been read. The comma is taken, and the
opening quote of the next name too. -/
def hasField (first : Bool) : Reader Bool := do
  match ← peekPastBlanks with
  | none => fail .endInObject
  | some c =>
    if c == '\x7d' then return false
    else if first then
      if c == '"' then do skip; return true else fail .keyNotText
    else if c == ',' then
      skip
      match ← peekPastBlanks with
      | none => fail .endInValue
      | some c =>
        if c == '"' then do skip; return true
        else if c == '\x7d' then fail .trailingComma
        else fail .keyNotText
    else fail .expectedObjectCommaOrEnd

/-- The colon between the name of a field and its value. -/
def colon : Reader Unit := do
  match ← peekPastBlanks with
  | none => fail .endInObject
  | some c => if c == ':' then skip else fail .expectedColon

/-- The end of a record, after its last field. -/
def endOfRecord : Reader Unit := do
  match ← peekPastBlanks with
  | none => fail .endInObject
  | some c =>
    if c == '\x7d' then skip
    else if c == ',' then fail .trailingComma
    else fail .trailingCharacters

/-- The entries of a dictionary up to its end, in the order written. -/
def entries {α : Type} (value : Reader α) : Nat → Bool → Reader (List (String × α))
  | 0, _ => fail .endInObject
  | fuel + 1, first => do
    if ← hasField first then
      let key ← text
      colon
      let v ← value
      return (key, v) :: (← entries value fuel false)
    else return []

/-- A dictionary with values of one kind, its entries in the order written. -/
def dictionaryOf {α : Type} (value : Reader α) : Reader (List (String × α)) := do
  match ← peekPastBlanks with
  | some '\x7b' =>
    skip
    let found ← entries value ((← get).length + 1) true
    endOfRecord
    return found
  | _ => unexpected "a map"

end Reader

/-- A field of a record: its name, whether it has to be there, and how its value changes the record
that is being read. -/
structure Field (α : Type) where
  label : String
  required : Bool
  read : Reader (α → α)

/-- A field that has to be there. -/
def Field.always {α β : Type} (label : String) (value : Reader β) (put : β → α → α) : Field α :=
  ⟨label, true, do return put (← value)⟩

/-- A field that may be left out or be a null. -/
def Field.sometimes {α β : Type} (label : String) (value : Reader β) (put : Option β → α → α) :
    Field α :=
  ⟨label, false, do return put (← Reader.optional value)⟩

/-- The name of a kind of record, the record before anything is read, and the fields in order. -/
structure RecordShape (α : Type) where
  kind : String
  blank : α
  fields : List (Field α)

namespace RecordShape

variable {α : Type}

/-- What the reader of such a record asks for. -/
def expected (shape : RecordShape α) : String :=
  "struct " ++ shape.kind

/-- How many values a record needs that is written as a list. -/
def expectedLength (shape : RecordShape α) : String :=
  shape.expected ++ " with " ++ toString shape.fields.length ++
    (if shape.fields.length == 1 then " element" else " elements")

/-- The fields in order, written as the items of a list; `index` counts the values read so far. -/
def readInOrder (shape : RecordShape α) : List (Field α) → Nat → α → Reader α
  | [], _, built => pure built
  | field :: rest, index, built => do
    if ← Reader.hasItem (index == 0) then
      let put ← field.read
      readInOrder shape rest (index + 1) (put built)
    else if field.required then Reader.fail (.wrongLength index shape.expectedLength)
    else readInOrder shape rest (index + 1) built

/-- The fields by name, up to the end of the record; answers the names found too. -/
def readByName (shape : RecordShape α) : Nat → List String → α → Reader (List String × α)
  | 0, _, _ => Reader.fail .endInObject
  | fuel + 1, seen, built => do
    if ← Reader.hasField seen.isEmpty then
      let key ← Reader.text
      match shape.fields.find? fun f => f.label == key with
      | none =>
        Reader.colon
        Reader.ignored
        readByName shape fuel (key :: seen) built
      | some field =>
        if seen.contains key then Reader.fail (.duplicateField key)
        else
          Reader.colon
          let put ← field.read
          readByName shape fuel (key :: seen) (put built)
    else return (seen, built)

/-- A record, written either way. -/
def read (shape : RecordShape α) : Reader α := do
  match ← Reader.peekPastBlanks with
  | some '[' =>
    Reader.skip
    let built ← shape.readInOrder shape.fields 0 shape.blank
    Reader.endOfList
    return built
  | some '\x7b' =>
    Reader.skip
    let (seen, built) ← shape.readByName ((← get).length + 1) [] shape.blank
    match shape.fields.find? fun f => f.required && !seen.contains f.label with
    | some field => Reader.fail (.missingField field.label)
    | none =>
      Reader.endOfRecord
      return built
  | _ => Reader.unexpected shape.expected

end RecordShape

/-- Reads a whole text: nothing but blanks may follow the value. -/
def Reader.whole {α : Type} (value : Reader α) (s : String) : Except ReadError α :=
  match value s.toList with
  | .error e => .error e
  | .ok (result, rest) =>
    if (rest.dropWhile Reader.isBlank).isEmpty then .ok result else .error .trailingCharacters

end Roster.Json

import Roster.Settings.Variables
import Roster.Text.Blank
import Roster.Text.Pieces

/-!
# Files of variables

A file can give variables values, one on a line, as far as they have none yet. Values may be quoted
and may refer to other variables. The first line that cannot be read ends the reading.
-/

namespace Roster.VariableFile

/-- What a character of a value is read as, besides itself. -/
inductive Quote where
  | none
  | single
  | double
  deriving DecidableEq, Repr

/-- Whether the name of a variable is being read, and whether it stands in braces. -/
inductive Reference where
  | none
  | bare
  | braced
  deriving DecidableEq, Repr

/-- A value under way: what has been read, last first, and how the next character is read. -/
structure Reading where
  out : List Char
  quote : Quote
  escaped : Bool
  ended : Bool
  reference : Reference
  name : List Char
  deriving DecidableEq, Repr

namespace Reading

/-- The value before its first character. -/
def start : Reading := ⟨[], .none, false, false, .none, []⟩

/-- Adds a character to the value. -/
def push (r : Reading) (c : Char) : Reading :=
  { r with out := c :: r.out }

/-- Puts the value of the variable in place whose name has been read. -/
def resolve (lookUp : String → String) (r : Reading) : Reading :=
  { r with out := (lookUp (String.ofList r.name.reverse)).toList.reverse ++ r.out, name := [] }

/-- Whether a character belongs to the name of a variable. Beyond ASCII all but blanks and controls
do. -/
def isNamePart (c : Char) : Bool :=
  c.isAlphanum || (0x80 ≤ c.toNat && !Text.isBlank c && !Text.isControl c)

/-- A character behind a backslash. -/
def stepEscaped (r : Reading) (c : Char) : Option Reading :=
  let r := { r with escaped := false }
  if ['\\', '\'', '"', '$', ' '].contains c then some (r.push c)
  else if c == 'n' then some (r.push '\n')
  else none

/-- A character behind the name of a variable, or of the name itself. -/
def stepReference (lookUp : String → String) (r : Reading) (c : Char) : Reading :=
  if isNamePart c then { r with name := c :: r.name }
  else if r.reference = .braced then
    if c == '\x7d' then { r.resolve lookUp with reference := .none }
    else { r with name := c :: r.name }
  else if c == '\x7b' && r.name.isEmpty then { r with reference := .braced }
  else if c == '$' then { r.resolve lookUp with reference := .bare }
  else { r.resolve lookUp with reference := .none }.push c

/-- A character that stands outside quotes. -/
def stepPlain (r : Reading) (c : Char) : Reading :=
  if c == '\'' then { r with quote := .single }
  else if c == '"' then { r with quote := .double }
  else if c == '\\' then { r with escaped := true }
  else if c == ' ' || c == '\t' then { r with ended := true }
  else r.push c

/-- The next character of a value. -/
def step (lookUp : String → String) (r : Reading) (c : Char) : Option Reading :=
  if r.escaped then r.stepEscaped c
  else if r.quote = .single then some (if c == '\'' then { r with quote := .none } else r.push c)
  else if r.reference ≠ .none then some (r.stepReference lookUp c)
  else if c == '$' then some { r with reference := .bare }
  else if r.quote = .double then
    if c == '"' then some { r with quote := .none }
    else if c == '\\' then some { r with escaped := true }
    else some (r.push c)
  else some (r.stepPlain c)

/-- The value, when nothing follows. -/
def finish (lookUp : String → String) (r : Reading) : Option String :=
  if r.reference = .braced || r.quote ≠ .none then none
  else some (String.ofList (r.resolve lookUp).out.reverse)

/-- Reads a value. Behind its end only blanks and a comment may follow. -/
def run (lookUp : String → String) (r : Reading) : List Char → Option String
  | [] => r.finish lookUp
  | c :: rest =>
    if r.ended then
      if c == ' ' || c == '\t' then r.run lookUp rest
      else if c == '#' then r.finish lookUp
      else none
    else (r.step lookUp c).bind fun r => r.run lookUp rest

end Reading

/-- What a line gives: nothing, or a value for a variable. -/
abbrev Entry := Option (String × String)

/-- Reads the name of a variable; answers what follows too. -/
def takeName (cs : List Char) : Option (String × List Char) :=
  let isPart (c : Char) : Bool := c.isAlphanum || c == '_' || c == '.'
  match cs with
  | [] => none
  | first :: _ =>
    if first.isAlpha || first == '_' then
      some (String.ofList (cs.takeWhile isPart), Text.dropLeading (cs.dropWhile isPart))
    else none

/-- Reads the equals sign. -/
def takeEquals : List Char → Option (List Char)
  | '=' :: rest => some rest
  | _ => none

/-- Reads a name with its equals sign. The word `export` may stand before the name, but is a name too
when an equals sign follows. -/
def takeLeft (cs : List Char) : Option (String × List Char) := do
  let (name, rest) ← takeName cs
  match takeEquals rest with
  | some rest => return (name, rest)
  | none =>
    if name == "export" then
      let (name, rest) ← takeName rest
      return (name, ← takeEquals rest)
    else none

/-- Reads a line; `none` stands for one that cannot be read. -/
def readLine (lookUp : String → String) (line : List Char) : Option Entry :=
  let cs := Text.trim line
  if cs.isEmpty || cs.head? == some '#' then some none
  else do
    let (name, rest) ← takeLeft cs
    let rest := Text.dropLeading rest
    if rest.isEmpty || rest.head? == some '#' then return some (name, "")
    else return some (name, ← Reading.start.run lookUp rest)

/-- What a name in a value stands for: the variable, or else what an earlier line gave it. -/
def lookUp (known given : Variables) (name : String) : String :=
  ((known.get? name).or (given.get? name)).getD ""

/-- Takes in lines in turn; `given` holds what earlier lines gave. -/
def takeLines (known given : Variables) : List (List Char) → Variables
  | [] => known
  | line :: rest =>
    match readLine (lookUp known given) line with
    | none => known
    | some none => takeLines known given rest
    | some (some (name, value)) =>
      takeLines (known.setMissing name value) (given.set name value) rest

/-- Takes in a file. -/
def load (known : Variables) (content : String) : Variables :=
  takeLines known .empty (Text.pieces '\n' content.toList)

end Roster.VariableFile

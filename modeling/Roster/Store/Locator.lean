import Roster.Text.Quoted
import Roster.Text.Unreadable
import Roster.Url.Form

/-!
# Locators of databases

A locator is a word for the kind of store, the escaped path of a file, and perhaps parameters. A
database can also be kept in memory.
-/

namespace Roster

/-- How a database is opened. -/
inductive Access where
  | readWrite
  | readOnly
  | frozen
  deriving DecidableEq, Repr

/-- What a locator says of a database. -/
structure Locator where
  file : String
  inMemory : Bool
  access : Access
  driver : Option String
  deriving DecidableEq, Repr

/-- Why a text is no locator. -/
inductive LocatorError where
  | unreadable (fault : Text.Fault)
  | unknownParameter (name : String)
  | unknownValue (name value : String)
  deriving DecidableEq, Repr

/-- The text of the error. -/
def LocatorError.message : LocatorError → String
  | .unreadable fault => "error with configuration: " ++ fault.message
  | .unknownParameter name =>
    "error with configuration: unknown query parameter `" ++ name ++
      "` while parsing connection URL"
  | .unknownValue name value =>
    "error with configuration: unknown value " ++ Text.quoted value ++ " for `" ++ name ++ "`"

namespace Locator

/-- The word for the kind of store. -/
def scheme : List Char := "sqlite:".toList

/-- What every locator begins with. -/
def opening : List Char := "sqlite://".toList

/-- The path of a database that is kept in memory. -/
def memoryFile : String := ":memory:"

/-- A text without a word that stands at its front, however often. -/
def dropRepeated (word : List Char) : Nat → List Char → List Char
  | 0, cs => cs
  | fuel + 1, cs =>
    if word.isPrefixOf cs then dropRepeated word fuel (cs.drop word.length) else cs

/-- What stands behind the word for the kind of store. -/
def essence (cs : List Char) : List Char :=
  dropRepeated scheme cs.length (dropRepeated opening cs.length cs)

/-- Takes in a parameter. -/
def withParameter (l : Locator) (name value : String) : Except LocatorError Locator :=
  let unknown : Except LocatorError Locator := .error (.unknownValue name value)
  match name with
  | "mode" =>
    match value with
    | "ro" => .ok { l with access := if l.access = .frozen then .frozen else .readOnly }
    | "rw" | "rwc" => .ok l
    | "memory" => .ok { l with inMemory := true }
    | _ => unknown
  | "cache" =>
    match value with
    | "private" | "shared" => .ok l
    | _ => unknown
  | "immutable" =>
    match value with
    | "true" | "1" => .ok { l with access := .frozen }
    | "false" | "0" => .ok l
    | _ => unknown
  | "vfs" => .ok { l with driver := some value }
  | _ => .error (.unknownParameter name)

/-- Takes in parameters in turn. -/
def withParameters (l : Locator) : List (String × String) → Except LocatorError Locator
  | [] => .ok l
  | (name, value) :: rest => (l.withParameter name value).bind fun l => l.withParameters rest

/-- The database that a path without parameters names. -/
def ofFile (cs : List Char) : Except LocatorError Locator :=
  let octets := Url.unescape cs
  if cs == memoryFile.toList then .ok ⟨memoryFile, true, .readWrite, none⟩
  else
    match Text.fault? octets with
    | some fault => .error (.unreadable fault)
    | none => .ok ⟨String.ofList (Text.ofOctets octets), false, .readWrite, none⟩

/-- Reads a locator. -/
def parse (s : String) : Except LocatorError Locator :=
  let cs := essence s.toList
  (ofFile (cs.takeWhile (· != '?'))).bind fun l =>
    l.withParameters (Url.Form.read ((cs.dropWhile (· != '?')).drop 1))

/-- The path in a locator as it is written, parameters and all; slashes at its front are one. -/
def writtenPath? (s : String) : Option String :=
  let cs := s.toList
  if opening.isPrefixOf cs then
    let path := cs.drop opening.length
    some (String.ofList (if path.head? == some '/' then '/' :: path.dropWhile (· == '/') else path))
  else none

/-- The locator of a database by its path. -/
def ofPath (path : String) : String :=
  let cs := path.toList
  let front := if cs.head? == some '/' then opening ++ ['/'] else opening
  String.ofList (front ++ cs.dropWhile (· == '/'))

/-- Nothing is left to drop behind a text that does not begin with the word. -/
theorem dropRepeated_of_not_prefix {word cs : List Char} (h : word.isPrefixOf cs = false) (n : Nat) :
    dropRepeated word n cs = cs := by
  cases n <;> simp [dropRepeated, h]

end Locator

end Roster

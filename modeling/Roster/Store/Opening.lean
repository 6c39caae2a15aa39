import Roster.Disk.Basic
import Roster.Step
import Roster.Store.Locator

/-!
# Opening databases

A database is opened by its locator, and made first if there is none, with the folders that lead to
it. Every opened database has its registers.
-/

namespace Roster

/-- Why a database cannot be opened. -/
inductive OpeningError where
  | notLocator (text : String)
  | folder (error : DiskError)
  | locator (error : LocatorError)
  | making (reason : String)
  | connecting (reason : String)
  | registers (reason : String)
  deriving DecidableEq, Repr

namespace OpeningError

/-- The complaint about a text that is no locator. -/
def notLocatorText (text : String) : String :=
  "Not a valid SQLite URL: " ++ text

/-- The text of the error. -/
def message : OpeningError → String
  | .notLocator text => "Invalid database URL format: " ++ notLocatorText text
  | .folder error => "Failed to create database directory: " ++ error.message
  | .locator error => "Error checking database: " ++ error.message
  | .making reason => "Failed to create SQLite database: " ++ reason
  | .connecting reason => "Failed to connect to SQLite database: " ++ reason
  | .registers reason => "Failed to set up database schema: " ++ reason

/-- What the log tells of the error. -/
def log : OpeningError → List LogLine
  | .notLocator text => [⟨.error, "Error extracting database path: " ++ notLocatorText text⟩]
  | .connecting reason => [⟨.error, "Failed to connect to database: " ++ reason⟩]
  | _ => []

end OpeningError

namespace Disk

/-- The complaint about a file that cannot be opened. -/
def cannotOpen : String := "error returned from database: (code: 14) unable to open database file"

/-- The complaint about a file that holds something else. -/
def noDatabase : String := "error returned from database: (code: 26) file is not a database"

/-- The complaint about a write where only reading is allowed. -/
def writeRefused : String :=
  "error returned from database: (code: 8) attempt to write a readonly database"

/-- The complaint about an unknown driver. -/
def unknownDriver (name : String) : String :=
  "error returned from database: (code: 1) no such vfs: " ++ name

/-- The complaint about a name that cannot be one. -/
def improperFile : String :=
  "error communicating with database: filename passed to SQLite must not contain nul bytes"

/-- The drivers of files. -/
def drivers : List String := ["unix", "unix-dotfile", "unix-excl", "unix-none", "memdb"]

/-- The place of a database file. Double dots are resolved by name, whatever stands there. -/
def databasePlace (d : Disk) (p : Path) : Place :=
  p.parts.foldl next (d.origin p)

/-- An opened database: its place, unless it is kept apart from the disk, and what it holds. -/
structure Connection where
  place : Option Place
  store : Store

/-- Whether a database by itself stands apart from the disk. -/
def isApart (l : Locator) : Bool :=
  l.inMemory || l.file.isEmpty || l.file == Locator.memoryFile

/-- Whether a file can be opened at a place; a missing one is made when asked. -/
def openFile (d : Disk) (place : Place) (make : Bool) : Except String Disk :=
  match d.occupant? place.dropLast, d.occupant? place with
  | some .folder, none => if make then .ok (d.put place (.text "")) else .error cannotOpen
  | some .folder, some (.text _) => .ok d
  | some .folder, some (.database _) => .ok d
  | _, _ => .error cannotOpen

/-- Refuses what no database can be opened with. -/
def refusal? (l : Locator) : Option String :=
  match l.driver with
  | some name =>
    if !Path.isProper l.file then some improperFile
    else if drivers.contains name then none else some (unknownDriver name)
  | none => if Path.isProper l.file then none else some improperFile

/-- Makes the database of a locator. -/
def makeDatabase (d : Disk) (l : Locator) : Except String Disk :=
  match refusal? l with
  | some reason => .error reason
  | none =>
    if isApart l then .ok d
    else d.openFile (d.databasePlace (.ofText l.file)) (l.access != .readOnly)

/-- Connects to the database of a locator, and sees to it that it has its registers. -/
def connect (d : Disk) (l : Locator) : Except OpeningError (Disk × Connection) :=
  match refusal? l with
  | some reason => .error (.connecting reason)
  | none =>
    if isApart l then .ok (d, ⟨none, .setUp none⟩)
    else
      let place := d.databasePlace (.ofText l.file)
      match d.openFile place false with
      | .error reason => .error (.connecting reason)
      | .ok d =>
        match d.occupant? place, l.access with
        | some (.database store), _ => .ok (d, ⟨some place, .setUp (some store)⟩)
        | some (.text ""), .readWrite =>
          .ok (d.put place (.database (.setUp none)), ⟨some place, .setUp none⟩)
        | some (.text ""), .readOnly => .error (.connecting writeRefused)
        | some (.text ""), .frozen => .error (.registers writeRefused)
        | _, _ => .error (.connecting noDatabase)

/-- Opens a database by its locator. Answers the disk too, which may have changed all the same. -/
def openDatabase (d : Disk) (locator : String) : Disk × Except OpeningError Connection :=
  match Locator.writtenPath? locator with
  | none => (d, .error (.notLocator locator))
  | some path =>
    match d.makeParent path with
    | .error e => (d, .error (.folder e))
    | .ok d =>
      match Locator.parse locator with
      | .error e => (d, .error (.locator e))
      | .ok l =>
        match if l.inMemory || d.has l.file then .ok d else d.makeDatabase l with
        | .error reason => (d, .error (.making reason))
        | .ok d =>
          match d.connect l with
          | .error e => (d, .error e)
          | .ok (d, connection) => (d, .ok connection)

/-- Keeps what a connection holds. -/
def save (d : Disk) (c : Connection) : Disk :=
  match c.place with
  | some place => d.put place (.database c.store)
  | none => d

end Disk

end Roster

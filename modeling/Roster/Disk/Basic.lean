import Roster.Disk.Path
import Roster.Store.Basic

/-!
# The disk

The disk holds folders, texts and databases, each at its place below the root. A path is followed
from the root or from the folder at work, part by part.
-/

namespace Roster

/-- A place on the disk: the names that lead to it from the root. -/
abbrev Place := List String

/-- What stands at a place. -/
inductive DiskEntry where
  | folder
  | text (content : String)
  | database (store : Store)

/-- Why the disk refuses something. -/
inductive DiskError where
  | missing
  | notFolder
  | isFolder
  | taken
  | notText
  | improperName
  deriving DecidableEq, Repr

/-- The text of the error. -/
def DiskError.message : DiskError → String
  | .missing => "No such file or directory (os error 2)"
  | .notFolder => "Not a directory (os error 20)"
  | .isFolder => "Is a directory (os error 21)"
  | .taken => "File exists (os error 17)"
  | .notText => "stream did not contain valid UTF-8"
  | .improperName => "file name contained an unexpected NUL byte"

/-- The entries of the disk, and the folder at work. -/
structure Disk where
  entries : List (Place × DiskEntry)
  here : Place

namespace Disk

/-- A disk with nothing but the folder at work. -/
def blank (here : Place) : Disk :=
  ⟨(List.range here.length).map fun n => (here.take (n + 1), .folder), here⟩

/-- The path of the folder at work. -/
def herePath (d : Disk) : String :=
  "/" ++ String.intercalate "/" d.here

/-- What stands at a place. The root is a folder. -/
def occupant? (d : Disk) (place : Place) : Option DiskEntry :=
  if place.isEmpty then some .folder else (d.entries.find? fun e => e.1 == place).map Prod.snd

/-- Puts something at a place. -/
def put (d : Disk) (place : Place) (entry : DiskEntry) : Disk :=
  { d with entries := (place, entry) :: d.entries.filter fun e => e.1 != place }

/-- Where a path begins. -/
def origin (d : Disk) (p : Path) : Place :=
  if p.fromRoot then [] else d.here

/-- The place that a part leads to. -/
def next (place : Place) (part : String) : Place :=
  if part == Path.up then place.dropLast else place ++ [part]

/-- Follows parts from a place on. -/
def follow (d : Disk) : Place → List String → Except DiskError Place
  | place, [] => .ok place
  | place, part :: rest =>
    match d.occupant? place with
    | some .folder => d.follow (next place part) rest
    | some _ => .error .notFolder
    | none => .error .missing

/-- What a path names. -/
def find (d : Disk) (p : Path) : Except DiskError DiskEntry := do
  if p.isEmpty then throw .missing
  match d.occupant? (← d.follow (d.origin p) p.parts) with
  | some .folder => return .folder
  | some entry => if p.folderOnly then throw .notFolder else return entry
  | none => throw .missing

/-- Whether a path names something. -/
def has (d : Disk) (path : String) : Bool :=
  Path.isProper path && (d.find (.ofText path)).isOk

/-- Makes the folders that parts lead to, as far as they are missing. -/
def makeFoldersFrom (d : Disk) : Place → List String → Except DiskError Disk
  | _, [] => .ok d
  | place, part :: rest =>
    let place := next place part
    match d.occupant? place with
    | some .folder => d.makeFoldersFrom place rest
    | some _ => .error (if rest.isEmpty then .taken else .notFolder)
    | none => (d.put place .folder).makeFoldersFrom place rest

/-- Makes the folder that a path names, with those that lead to it. -/
def makeFolders (d : Disk) (p : Path) : Except DiskError Disk :=
  d.makeFoldersFrom (d.origin p) p.parts

/-- Sees to it that the folder exists that is to hold what a path names. -/
def makeParent (d : Disk) (path : String) : Except DiskError Disk :=
  match (Path.ofText path).parent? with
  | none => .ok d
  | some parent =>
    if !parent.parts.all Path.isProper then .error .improperName
    else if (d.find parent).isOk then .ok d
    else d.makeFolders parent

/-- Reads a text. -/
def readText (d : Disk) (path : String) : Except DiskError String := do
  if !Path.isProper path then throw .improperName
  match ← d.find (.ofText path) with
  | .folder => throw .isFolder
  | .text content => return content
  | .database _ => throw .notText

/-- Sees to it that a text exists to which lines can be added. -/
def openLog (d : Disk) (path : String) : Except DiskError Disk := do
  if !Path.isProper path then throw .improperName
  let p := Path.ofText path
  if p.isEmpty then throw .missing
  let some name := p.parts.getLast? | throw .isFolder
  let parent ← d.follow (d.origin p) p.parts.dropLast
  match d.occupant? parent with
  | some .folder =>
    let place := next parent name
    match d.occupant? place with
    | some .folder => throw .isFolder
    | some _ => if p.folderOnly then throw .notFolder else return d
    | none => if p.folderOnly then throw .isFolder else return d.put place (.text "")
  | some _ => throw .notFolder
  | none => throw .missing

end Disk

end Roster

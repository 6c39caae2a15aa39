import Roster.Text.Pieces

/-!
# Paths of files

A path names a file by the folders that lead to it. Empty parts and single dots mean nothing; double
dots lead one folder up.
-/

namespace Roster

/-- A path: whether it begins at the root, its parts, and whether it can only name a folder. -/
structure Path where
  fromRoot : Bool
  parts : List String
  folderOnly : Bool
  deriving DecidableEq, Repr

namespace Path

/-- The part that leads one folder up. -/
def up : String := ".."

/-- Whether a part means something. -/
def isMeant (part : List Char) : Bool :=
  !part.isEmpty && part != ['.']

/-- The path that a text names. -/
def ofText (s : String) : Path :=
  let pieces := Text.pieces '/' s.toList
  { fromRoot := s.toList.head? == some '/'
    parts := (pieces.filter isMeant).map String.ofList
    folderOnly := !s.isEmpty && !(pieces.getLast?.map isMeant).getD false }

/-- The path of the folder that holds what the path names. -/
def parent? (p : Path) : Option Path :=
  if p.parts.isEmpty then none else some ⟨p.fromRoot, p.parts.dropLast, true⟩

/-- Whether the path names nothing at all. -/
def isEmpty (p : Path) : Bool :=
  !p.fromRoot && p.parts.isEmpty && !p.folderOnly

/-- A name taken from a folder; a name that begins at the root stands for itself. -/
def join (folder name : String) : String :=
  if name.toList.head? == some '/' then name
  else if folder.toList.getLast? == some '/' then folder ++ name
  else folder ++ "/" ++ name

/-- Whether a text can be part of a path. -/
def isProper (s : String) : Bool :=
  s.toList.all fun c => c.toNat != 0

end Path

end Roster

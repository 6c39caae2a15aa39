import Roster.Disk.Basic
import Roster.Settings.Variables
import Roster.Source.Remote

/-!
# Runs of a program

A program runs in a world of files, variables and a network. It leaves a code, what it printed, what
it complained about, and the files as it left them.
-/

namespace Roster

/-- What a program runs in. -/
structure World where
  disk : Disk
  environment : Variables
  network : Network

/-- What a run leaves behind. -/
structure Outcome where
  code : Nat
  output : String
  complaint : String
  disk : Disk

namespace Outcome

/-- A run that went well. -/
def success (disk : Disk) (output : String) : Outcome :=
  ⟨0, output, "", disk⟩

/-- A run that failed, after it had printed something. -/
def failure (disk : Disk) (output message : String) : Outcome :=
  ⟨1, output, "Error: " ++ message ++ "\n", disk⟩

/-- A run that was not begun, for what its arguments are. -/
def misuse (disk : Disk) (message : String) : Outcome :=
  ⟨2, "", "error: " ++ message ++ "\n", disk⟩

end Outcome

end Roster

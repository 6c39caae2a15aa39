import Roster.Program.Headless

/-!
# The command line

Gathers the variables and files that the program may ask for, runs it, and prints what it prints. It
reaches no network, and what a run writes to its disk is forgotten with it.
-/

namespace Roster

/-- The variables that settle anything. -/
def variableNames : List String :=
  ["DATABASE_NAME", "DEBUG", "DIRECTORY_API_URL", "DIRECTORY_LOG_FILE", "DIRECTORY_OFFLINE",
   "DIRECTORY_PAGE_SIZE", "DIRECTORY_PAYLOAD", "DIRECTORY_START_URL"]

/-- The variables of the environment. -/
def gatherVariables : IO Variables := do
  let mut found := Variables.empty
  for name in variableNames do
    found := found.setSome name (← IO.getEnv name)
  return found

/-- Puts a file on the disk, if it can be read. -/
def gatherFile (disk : Disk) (path : String) : IO Disk := do
  try
    let content ← IO.FS.readFile path
    let p := Path.ofText path
    let disk := (disk.makeParent path).toOption.getD disk
    return disk.put (p.parts.foldl Disk.next (disk.origin p)) (.text content)
  catch _ => return disk

/-- The disk as far as the program may ask for it: the file of variables and that of the list. -/
def gatherDisk (environment : Variables) (words : List String) : IO Disk := do
  let here := Path.ofText (← IO.currentDir).toString
  let disk ← gatherFile (.blank here.parts) Settings.variableFile
  match Arguments.parse words with
  | .error _ => return disk
  | .ok arguments =>
    let given := Settings.withFile (arguments.handOn environment) disk
    match given.get? "DIRECTORY_PAYLOAD" with
    | some path => gatherFile disk path
    | none => return disk

end Roster

open Roster in
/-- Runs the program on the words of the command line. -/
def main (words : List String) : IO UInt32 := do
  let environment ← gatherVariables
  let disk ← gatherDisk environment words
  let outcome := Headless.run ⟨disk, environment, .unreachable⟩ words
  IO.print outcome.output
  IO.eprint outcome.complaint
  return UInt32.ofNat outcome.code

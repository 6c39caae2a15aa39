import Roster.Decimal.Fixed
import Roster.Program.Outcome
import Roster.Settings.Basic
import Roster.Store.Demo
import Roster.Store.Opening
import Roster.Text.Padded

/-!
# Filling the database

The program fills the database with the organizations to begin with, unless it shows some already,
and prints the list that results.
-/

namespace Roster.Seeding

/-- The line that is printed first. -/
def announcement (locator : String) : String :=
  "Seeding " ++ locator ++ "...\n"

/-- The line on what was done. -/
def summary (inserted total : Nat) : String :=
  if inserted = 0 then "Database already populated (" ++ toString total ++ " organizations)\n"
  else "Inserted " ++ toString inserted ++ " organizations\n"

/-- The line of an organization. Its mean score is rounded once only. -/
def organizationLine (o : Organization) : String :=
  Text.padded 3 (toString o.ranking) ++ ". " ++ o.name ++ " (" ++ Decimal.fixed 2 o.averageScore ++
    ")\n"

/-- What is printed of a store in which organizations were inserted. -/
def listing (s : Store) (inserted : Nat) : String :=
  summary inserted s.count ++ String.join (s.list.map organizationLine)

/-- Fills the database of a locator. -/
def runAt (locator : String) (disk : Disk) : Outcome :=
  match disk.openDatabase locator with
  | (disk, .error e) => .failure disk (announcement locator) e.message
  | (disk, .ok connection) =>
    match connection.store.seed with
    | (store, .error e) =>
      .failure (disk.save { connection with store := store }) (announcement locator) e.message
    | (store, .ok inserted) =>
      .success (disk.save { connection with store := store })
        (announcement locator ++ listing store inserted)

/-- Fills the database of the settings. -/
def run (w : World) : Outcome :=
  match Settings.databaseLocator (Settings.withFile w.environment w.disk) w.disk with
  | .error e => .failure w.disk "" e.message
  | .ok (locator, disk) => runAt locator disk

end Roster.Seeding

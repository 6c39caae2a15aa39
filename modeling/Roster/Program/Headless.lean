import Roster.Program.Outcome
import Roster.Program.Usage
import Roster.Report
import Roster.Settings.Basic
import Roster.Store.Opening
import Roster.Store.Source
import Roster.Terminal.Exchange

/-!
# The directory without a screen

The program prints the page that it is opened at. It reads its settings, opens its log, connects to
its source, takes the list of organizations from a file or from the source, and asks for the tables
of labels.
-/

namespace Roster.Headless

/-- Connects to the source of the settings. -/
def connect (settings : Settings) (network : Network) (disk : Disk) : Disk × Except String Source :=
  match settings.source with
  | .web base => (disk, .ok (Remote.source ⟨base, settings.startUrl, network⟩))
  | .store locator =>
    let (disk, connection) := disk.openDatabase locator
    (disk, (connection.map fun c => c.store.source).mapError OpeningError.message)

/-- The list of organizations: that of a file, or else that of the source. -/
def payload (settings : Settings) (source : Source) (disk : Disk) : Except String (Option String) :=
  match settings.payloadPath with
  | some path =>
    match disk.readText path with
    | .ok content => .ok (some content)
    | .error e => .error ("Failed to read " ++ path ++ ": " ++ e.message)
  | none =>
    source.payload.mapError fun e => "Failed to load the organization list: " ++ e.message

/-- The report on a list of organizations, once the tables of labels are there. -/
def report (organizations : List Organization) (settings : Settings) (source : Source) : Report :=
  .ofSession ((Terminal.Session.start organizations settings.pageSize settings.startUrl).withTables
    source).state

/-- What is said when there is nothing to show. -/
def nothingToShow (settings : Settings) : String :=
  "No organization data to display; see " ++ settings.logFile ++ "\n"

/-- Runs with a source. -/
def runWith (settings : Settings) (json : Bool) (source : Source) (disk : Disk) : Outcome :=
  match payload settings source disk with
  | .error message => .failure disk "" message
  | .ok payload =>
    match (Payload.mount payload true).state with
    | some organizations => .success disk ((report organizations settings source).printed json)
    | none => ⟨0, "", nothingToShow settings, disk⟩

/-- Runs with settings. -/
def runSettled (settings : Settings) (json : Bool) (network : Network) (disk : Disk) : Outcome :=
  match disk.openLog settings.logFile with
  | .error e => .failure disk "" e.message
  | .ok disk =>
    match connect settings network disk with
    | (disk, .error message) => .failure disk "" message
    | (disk, .ok source) => runWith settings json source disk

/-- Runs with the words of the command line. -/
def run (w : World) (words : List String) : Outcome :=
  match Arguments.parse words with
  | .error .help => .success w.disk Usage.helpText
  | .error .version => .success w.disk Usage.versionText
  | .error stop => .misuse w.disk (Usage.complaint stop)
  | .ok arguments =>
    match Settings.read (arguments.handOn w.environment) w.disk with
    | .error e => .failure w.disk "" e.message
    | .ok (settings, disk) => runSettled settings arguments.json w.network disk

end Roster.Headless

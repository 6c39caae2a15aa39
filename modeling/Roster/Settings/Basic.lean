import Roster.Directory.Page
import Roster.Disk.Basic
import Roster.Settings.VariableFile
import Roster.Step
import Roster.Store.Locator
import Roster.Url.Parse

/-!
# Settings

What the program works with: where its data come from, the address it is opened at, the size of a
page, and the files it reads and writes. All of it is settled by variables, some of which may stand
in a file of the folder at work.
-/

namespace Roster

/-- Where tables, details and scores come from. -/
inductive DataSource where
  | web (base : Url)
  | store (locator : String)
  deriving DecidableEq, Repr

/-- The settings. -/
structure Settings where
  source : DataSource
  payloadPath : Option String
  pageSize : PageSize
  startUrl : Url
  logFile : String
  debug : Bool
  rejectedPageSize : Option String
  deriving DecidableEq, Repr

/-- Why there are no settings. -/
inductive SettingsError where
  | apiUrl (raw : String) (error : Url.ReadError)
  | startUrl (raw : String) (error : Url.ReadError)
  | folder (error : DiskError)

/-- The text of the error. -/
def SettingsError.message : SettingsError → String
  | .apiUrl raw error => "Invalid API URL " ++ raw ++ ": " ++ error.message
  | .startUrl raw error => "Invalid start URL " ++ raw ++ ": " ++ error.message
  | .folder error => error.message

namespace Settings

/-- The address asked when none is given. -/
def standardApiUrl : String := "http://localhost:8000/"

/-- The database opened when none is given. -/
def standardDatabase : String := "organizations.db"

/-- The log written when none is given. -/
def standardLogFile : String := "org-directory.log"

/-- The file of variables. -/
def variableFile : String := ".env"

/-- Whether a value means yes. -/
def isTruthy (value : String) : Bool :=
  value == "1" || value == "true" || value == "yes"

/-- Whether a variable means yes. -/
def isRaised (v : Variables) (name : String) : Bool :=
  (v.get? name).any isTruthy

/-- The variables with those of the file in the folder at work. -/
def withFile (v : Variables) (d : Disk) : Variables :=
  match d.readText variableFile with
  | .ok content => VariableFile.load v content
  | .error _ => v

/-- The path of the database. -/
def databasePath (v : Variables) (d : Disk) : String :=
  Path.join d.herePath ((v.get? "DATABASE_NAME").getD standardDatabase)

/-- The locator of the database, whose folder is made if it is missing. -/
def databaseLocator (v : Variables) (d : Disk) : Except SettingsError (String × Disk) :=
  let path := databasePath v d
  match d.makeParent path with
  | .ok d => .ok (Locator.ofPath path, d)
  | .error e => .error (.folder e)

/-- The size of a page, and the value that was rejected in its favour. -/
def readPageSize : Option String → PageSize × Option String
  | none => (.standard, none)
  | some raw => (PageSize.parse? raw).elim (.standard, some raw) fun size => (size, none)

/-- Reads the address that is asked. -/
def readApiUrl (v : Variables) : Except SettingsError Url :=
  let raw := (v.get? "DIRECTORY_API_URL").getD standardApiUrl
  (Url.parse raw).mapError (.apiUrl raw)

/-- Reads the address that is opened, against the one that is asked. -/
def readStartUrl (v : Variables) (base : Url) : Except SettingsError Url :=
  match v.get? "DIRECTORY_START_URL" with
  | some raw => (base.join raw).mapError (.startUrl raw)
  | none => .ok base

/-- Reads where the data come from. -/
def readSource (v : Variables) (d : Disk) (base : Url) : Except SettingsError (DataSource × Disk) :=
  if isRaised v "DIRECTORY_OFFLINE" then
    (databaseLocator v d).map fun (locator, d) => (.store locator, d)
  else .ok (.web base, d)

/-- The settings of variables alone. -/
def ofVariables (v : Variables) (d : Disk) : Except SettingsError (Settings × Disk) := do
  let base ← readApiUrl v
  let start ← readStartUrl v base
  let (source, d) ← readSource v d base
  let (pageSize, rejected) := readPageSize (v.get? "DIRECTORY_PAGE_SIZE")
  return (
    { source := source
      payloadPath := v.get? "DIRECTORY_PAYLOAD"
      pageSize := pageSize
      startUrl := start
      logFile := (v.get? "DIRECTORY_LOG_FILE").getD standardLogFile
      debug := isRaised v "DEBUG"
      rejectedPageSize := rejected }, d)

/-- The settings of variables and of the file in the folder at work. -/
def read (v : Variables) (d : Disk) : Except SettingsError (Settings × Disk) :=
  ofVariables (withFile v d) d

/-- What the log is told of a rejected value. -/
def warnings (s : Settings) : List LogLine :=
  match s.rejectedPageSize with
  | some raw =>
    [⟨.warning, "Ignoring invalid DIRECTORY_PAGE_SIZE " ++ Text.quoted raw ++ ", using the default"⟩]
  | none => []

end Settings

end Roster

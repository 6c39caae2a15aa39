import Roster.Settings.Arguments

/-!
# Help

What the program tells about itself and its arguments.
-/

namespace Roster.Usage

/-- The name of the program. -/
def name : String := "org-directory"

/-- The version of the program. -/
def version : String := "0.1.0"

/-- The version, as it is printed. -/
def versionText : String := name ++ " " ++ version ++ "\n"

/-- The arguments, and what each is for. -/
def entries : List (String × String) :=
  [("    --headless", "Print the current page and exit"),
   ("    --json", "Print the headless page as JSON"),
   ("    --debug", "Enable debug logging"),
   ("    --payload <FILE>",
    "Read the organization list from a JSON file instead of the directory page"),
   ("    --api-url <URL>", "Base URL of the directory API"),
   ("    --url <URL>", "Address to open, e.g. \"/?page=2\"; relative to the API URL"),
   ("    --offline", "Serve lookups, details and scores from the local database"),
   ("    --db <PATH>", "Override database path"),
   ("    --page-size <N>", "Rows per page"),
   ("-h, --help", "Print help"),
   ("-V, --version", "Print version")]

/-- The column at which explanations begin. -/
def column : Nat := 24

/-- The line of an argument. -/
def entryLine (entry : String × String) : String :=
  let front := "  " ++ entry.1
  front ++ String.ofList (List.replicate (column - front.length) ' ') ++ entry.2

/-- The help, as it is printed. -/
def helpText : String :=
  let lines := ["Organization directory", "", "Usage: " ++ name ++ " [OPTIONS]", "", "Options:"] ++
    entries.map entryLine
  String.join (lines.map (· ++ "\n"))

/-- What is wrong with arguments. -/
def complaint : ArgumentStop → String
  | .help => ""
  | .version => ""
  | .unknown => "unexpected argument found"
  | .repeated => "an argument cannot be used multiple times"
  | .needlessValue => "unexpected value for an argument found; no more were expected"
  | .missingValue => "a value is required for an argument but none was supplied"
  | .malformedValue => "invalid value for an argument"

end Roster.Usage

import Roster.Organization.Document
import Roster.Step

/-!
# The embedded list

A page brings its organizations along as one document. A page without the document, or without a
place to show it, shows nothing; a document that cannot be read is noted in the log.
-/

namespace Roster.Payload

/-- The id of the element that holds the document. -/
def dataElement : String := "organization-data"

/-- The id of the element that the directory is shown in. -/
def containerElement : String := "organization-list"

/-- Reads the organizations of a document. -/
def parse (payload : String) : Except Json.ReadError (List Organization) :=
  Organization.listReader.whole payload

/-- The document of a list of organizations. -/
def encode (organizations : List Organization) : String :=
  (Organization.documents organizations).compact

/-- The organizations to show, if there are any and there is a place for them. -/
def mount (payload : Option String) (container : Bool) : Step (Option (List Organization)) :=
  match payload with
  | none => .silent none
  | some payload =>
    if payload.isEmpty then .silent none
    else
      match parse payload with
      | .ok organizations => .silent (if container then some organizations else none)
      | .error e => ⟨none, [], [⟨.error, "Error parsing organization data: " ++ e.message⟩]⟩

end Roster.Payload

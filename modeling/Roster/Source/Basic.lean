import Roster.Json.Error
import Roster.Request

/-!
# Sources

A source has the list of organizations and answers every request of the directory. It tells more
exactly than an answer does why it has no value.
-/

namespace Roster

/-- Why a source has no value. -/
inductive SourceError where
  | transport (message : String)
  | undecodable (message : String)
  | status (path : String) (code : Nat)
  | invalidUrl (message : String)
  | database (message : String)
  | notFound (id : OrganizationId)
  | document (error : Json.ReadError)

namespace SourceError

/-- The text of the error. -/
def message : SourceError → String
  | .transport message => "request failed: " ++ message
  | .undecodable message => "request failed: " ++ message
  | .status path code => path ++ " answered with status " ++ toString code
  | .invalidUrl message => "invalid URL: " ++ message
  | .database message => "database error: " ++ message
  | .notFound id => "organization " ++ toString id ++ " not found"
  | .document error => error.message

/-- What an answer tells of the error. -/
def toFetchError : SourceError → FetchError
  | .undecodable message => .undecodable message
  | .status _ code => .status code
  | .notFound id => .notFound id
  | .document error => .undecodable error.message
  | .transport m => .transport (message (.transport m))
  | .invalidUrl m => .transport (message (.invalidUrl m))
  | .database m => .transport (message (.database m))

end SourceError

/-- Everything that a source can be asked for. -/
structure Source where
  payload : Except SourceError (Option String)
  fundingRounds : Except SourceError Choices
  rtoPolicies : Except SourceError Choices
  detail : OrganizationId → Except SourceError OrganizationDetail
  scores : OrganizationId → Except SourceError (List Score)

namespace Source

/-- What an answer tells of a result. -/
def toFetched {α : Type} (result : Except SourceError α) : Fetched α :=
  result.mapError SourceError.toFetchError

/-- The answer to a request. -/
def answer (s : Source) : Request → Answer
  | .fundingRounds => .fundingRounds (toFetched s.fundingRounds)
  | .rtoPolicies => .rtoPolicies (toFetched s.rtoPolicies)
  | .detail id => .detail id (toFetched (s.detail id))
  | .scores id => .scores id (toFetched (s.scores id))

end Source

end Roster

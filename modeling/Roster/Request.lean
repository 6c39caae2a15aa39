import Roster.Choices
import Roster.Organization.Basic

/-!
# Requests and their answers

What the directory asks its source for, and what may come back. An answer names the request that it
belongs to.
-/

namespace Roster

/-- Something to ask the source for. -/
inductive Request where
  | fundingRounds
  | rtoPolicies
  | detail (id : OrganizationId)
  | scores (id : OrganizationId)
  deriving DecidableEq, Repr

namespace Request

/-- The path under which the source is asked. -/
def path : Request → String
  | .fundingRounds => "/api/funding-round-choices/"
  | .rtoPolicies => "/api/rto-policy-choices/"
  | .detail id => "/api/organizations/" ++ toString id ++ "/"
  | .scores id => "/api/organizations/" ++ toString id ++ "/scores/"

/-- The request in words. -/
def description (r : Request) : String :=
  "GET " ++ r.path

end Request

/-- Why a request brought no value. -/
inductive FetchError where
  | transport (message : String)
  | status (code : Nat)
  | undecodable (message : String)
  | notFound (id : OrganizationId)
  deriving DecidableEq, Repr

/-- The text of the error. -/
def FetchError.message : FetchError → String
  | .transport message => "request failed: " ++ message
  | .status code => "unexpected status " ++ toString code
  | .undecodable message => "invalid response body: " ++ message
  | .notFound id => "organization " ++ toString id ++ " not found"

/-- What a request brought. -/
abbrev Fetched (α : Type) := Except FetchError α

/-- The answer to a request. -/
inductive Answer where
  | fundingRounds (result : Fetched Choices)
  | rtoPolicies (result : Fetched Choices)
  | detail (id : OrganizationId) (result : Fetched OrganizationDetail)
  | scores (id : OrganizationId) (result : Fetched (List Score))

/-- The request that an answer belongs to. -/
def Answer.request : Answer → Request
  | .fundingRounds _ => .fundingRounds
  | .rtoPolicies _ => .rtoPolicies
  | .detail id _ => .detail id
  | .scores id _ => .scores id

end Roster

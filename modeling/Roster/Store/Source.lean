import Roster.Organization.Codes
import Roster.Payload
import Roster.Source.Basic
import Roster.Store.Listing

/-!
# The store as a source

The store answers the requests of the directory by itself. The tables of labels are the built-in
ones.
-/

namespace Roster.Store

/-- The source that a store is. -/
def source (s : Store) : Source where
  payload := .ok (some (Payload.encode s.list))
  fundingRounds := .ok FundingRound.choices
  rtoPolicies := .ok RtoPolicy.choices
  detail id :=
    match s.detail? id with
    | some detail => .ok detail
    | none => .error (.notFound id)
  scores id := if s.has id then .ok (s.meanScores id) else .error (.notFound id)

end Roster.Store

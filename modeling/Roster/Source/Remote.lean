import Roster.Organization.Document
import Roster.Payload
import Roster.Source.Basic
import Roster.Source.Markup
import Roster.Url.Parse

/-!
# The source on the web

The list of organizations stands in a page; everything else is asked for one by one, under an
address of its own.
-/

namespace Roster

/-- What comes back from the network. -/
structure Reply where
  code : Nat
  body : String
  deriving Repr

/-- The network: what comes back from an address, if anything does. -/
abbrev Network := Url → Option Reply

/-- A network from which nothing comes back. -/
def Network.unreachable : Network := fun _ => none

/-- A source on the web: the address that everything is asked under, and that of the page. -/
structure Remote where
  base : Url
  page : Url
  network : Network

namespace Remote

/-- How the source names itself when it asks. -/
def agent : String := "org-directory/0.1.0"

/-- Whether a reply brings what was asked for. -/
def isSuccess (reply : Reply) : Bool :=
  200 ≤ reply.code && reply.code < 300

/-- Asks under an address. The name of a user is not part of what is asked. -/
def ask (r : Remote) (u : Url) : Except SourceError Reply :=
  let u := u.withoutUser
  if !u.isRequestable then .error (.transport ("builder error for url (" ++ u.write ++ ")"))
  else
    match r.network u with
    | some reply => .ok reply
    | none => .error (.transport ("error sending request for url (" ++ u.write ++ ")"))

/-- The address of a request. -/
def address (r : Remote) (request : Request) : Except SourceError Url :=
  (r.base.join request.path).mapError fun e => .invalidUrl e.message

/-- Why a reply brings nothing, if it does not. -/
def refusal? (request : Request) (reply : Reply) : Option SourceError :=
  if isSuccess reply then none
  else
    match request, reply.code with
    | .detail id, 404 => some (.notFound id)
    | .scores id, 404 => some (.notFound id)
    | request, code => some (.status request.path code)

/-- Performs a request, and reads what it brings. -/
def fetch {α : Type} (r : Remote) (request : Request) (reader : Json.Reader α) :
    Except SourceError α := do
  let reply ← r.ask (← r.address request)
  match refusal? request reply with
  | some e => throw e
  | none => (reader.whole reply.body).mapError fun _ => .undecodable "error decoding response body"

/-- Reads the list of organizations out of the page, if the page has a place to show it. -/
def payload (r : Remote) : Except SourceError (Option String) := do
  let reply ← r.ask r.page
  if isSuccess reply then
    let text := reply.body.toList
    if Markup.hasElement text Payload.containerElement then
      return (Markup.elementText? text Payload.dataElement).map String.ofList
    else return none
  else throw (.status r.page.pathText reply.code)

/-- The source itself. -/
def source (r : Remote) : Source where
  payload := r.payload
  fundingRounds := r.fetch .fundingRounds Choices.reader
  rtoPolicies := r.fetch .rtoPolicies Choices.reader
  detail id := r.fetch (.detail id) OrganizationDetail.shape.read
  scores id := r.fetch (.scores id) Score.listReader

end Remote

end Roster

import Roster.Url.Form
import Roster.Url.Host

/-!
# Addresses

An address names a scheme, perhaps a host with a user and a port, a path, and perhaps a query and a
fragment. All parts are kept in their escaped form, so that writing an address only joins them.
-/

namespace Roster

namespace Url

/-- A path: segments below the root, or a text without a root. -/
inductive Path where
  | rooted (segments : List String)
  | plain (text : String)
  deriving DecidableEq, Repr

end Url

/-- An address. -/
structure Url where
  scheme : String
  username : String
  password : String
  host : Option Url.Host
  port : Option Nat
  path : Url.Path
  query : Option String
  fragment : Option String
  deriving DecidableEq, Repr

namespace Url

/-- The port of a scheme, when an address names none. -/
def standardPort (scheme : String) : Option Nat :=
  if scheme == "http" || scheme == "ws" then some 80
  else if scheme == "https" || scheme == "wss" then some 443
  else if scheme == "ftp" then some 21
  else none

/-- Whether addresses of a scheme name files. -/
def isFile (scheme : String) : Bool :=
  scheme == "file"

/-- Whether addresses of a scheme follow the rules of the web. -/
def isWeb (scheme : String) : Bool :=
  isFile scheme || (standardPort scheme).isSome

/-- The path, written. -/
def pathText (u : Url) : String :=
  match u.path with
  | .plain text => text
  | .rooted segments => String.join (segments.map ("/" ++ ·))

/-- What keeps a path without a host from being read as a host. -/
def pathGuard (u : Url) : String :=
  match u.host, u.path with
  | none, .rooted ("" :: _ :: _) => "/."
  | _, _ => ""

/-- The user with the password, written. -/
def userText (u : Url) : String :=
  if u.username.isEmpty && u.password.isEmpty then ""
  else u.username ++ (if u.password.isEmpty then "" else ":" ++ u.password) ++ "@"

/-- The port, written. -/
def portText (u : Url) : String :=
  match u.port with
  | some port => ":" ++ toString port
  | none => ""

/-- The host with user and port, written. -/
def authorityText (u : Url) : String :=
  match u.host with
  | some host => "//" ++ u.userText ++ host.write ++ u.portText
  | none => ""

/-- An optional part behind its sign. -/
def partText (sign : String) : Option String → String
  | some text => sign ++ text
  | none => ""

/-- The address, written. -/
def write (u : Url) : String :=
  u.scheme ++ ":" ++ u.authorityText ++ u.pathGuard ++ u.pathText ++ partText "?" u.query ++
    partText "#" u.fragment

/-- The pairs of the query. -/
def pairs (u : Url) : List (String × String) :=
  Form.read (u.query.getD "").toList

/-- The address with other pairs in its query. -/
def withPairs (u : Url) (pairs : List (String × String)) : Url :=
  { u with query := some (String.ofList (Form.write pairs)) }

/-- The value of a name in the query. -/
def parameter? (u : Url) (name : String) : Option String :=
  Form.get? name u.pairs

/-- The address with a value for a name in its query. -/
def setParameter (u : Url) (name value : String) : Url :=
  u.withPairs (Form.set name value u.pairs)

/-- The address without its user. -/
def withoutUser (u : Url) : Url :=
  { u with username := "", password := "" }

/-- Whether requests can be sent to the address. -/
def isRequestable (u : Url) : Bool :=
  (u.scheme == "http" || u.scheme == "https") && u.host.isSome

end Url

end Roster

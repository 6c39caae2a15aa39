import Roster.Text.Blank
import Roster.Url.Basic

/-!
# Reading addresses

Addresses are read by the rules of the web: blanks at the ends and line breaks anywhere are dropped,
dots in a path are resolved, the parts are escaped, and the standard port of a scheme vanishes. A
relative address is read against a base.
-/

namespace Roster.Url

/-- The text that counts: without controls and spaces at the ends, and without tabs and breaks. -/
def essential (cs : List Char) : List Char :=
  let inner := ((cs.dropWhile (·.toNat ≤ 0x20)).reverse.dropWhile (·.toNat ≤ 0x20)).reverse
  inner.filter fun c => !(c == '\t' || c == '\n' || c == '\r')

/-- Reads a scheme with its colon; answers it in lower case, and what follows. -/
def takeScheme : List Char → Option (String × List Char)
  | [] => none
  | first :: rest =>
    let isPart (c : Char) : Bool := c.isAlphanum || c == '+' || c == '-' || c == '.'
    let name := (first :: rest).takeWhile isPart
    match (first :: rest).dropWhile isPart with
    | ':' :: after =>
      if first.isAlpha then some (String.ofList (name.map Char.toLower), after) else none
    | _ => none

/-- Whether a character separates segments of a path. -/
def isSlash (web : Bool) (c : Char) : Bool :=
  c == '/' || (web && c == '\\')

/-- Whether a character ends a path. -/
def endsPath (c : Char) : Bool :=
  c == '?' || c == '#'

/-! ## Paths -/

/-- Whether a segment stands for the one above. -/
def isParent (segment : List Char) : Bool :=
  ["..", "%2e%2e", ".%2e", "%2e."].contains (String.ofList (segment.map Char.toLower))

/-- Whether a segment stands for the place itself. -/
def isHere (segment : List Char) : Bool :=
  [".", "%2e"].contains (String.ofList (segment.map Char.toLower))

/-- Whether a segment names a drive: a letter and a colon, or at first a bar. -/
def isDrive (segment : List Char) : Bool :=
  match segment with
  | [letter, sign] => letter.isAlpha && (sign == ':' || sign == '|')
  | _ => false

/-- Drops the last segment; a lone drive stays. -/
def dropSegment (scheme : String) (segments : List String) : List String :=
  match segments with
  | [only] => if isFile scheme && isDrive only.toList then [only] else []
  | _ => segments.dropLast

/-- Adds one segment to those above it; `final` says that none follows. -/
def addSegment (scheme : String) (above : List String) (segment : List Char) (final : Bool) :
    List String :=
  let ending := if final then [""] else []
  if isParent segment then dropSegment scheme above ++ ending
  else if isHere segment then above ++ ending
  else if isFile scheme && above.isEmpty && isDrive segment then
    above ++ [String.ofList (segment.take 1 ++ [':'])]
  else above ++ [String.ofList (escape plainInPath segment)]

/-- Adds segments in turn. -/
def addSegments (scheme : String) : List String → List (List Char) → List String
  | above, [] => above
  | above, [segment] => addSegment scheme above segment true
  | above, segment :: rest => addSegments scheme (addSegment scheme above segment false) rest

/-- The parts of a path between its separators. -/
def splitPath (web : Bool) (cs : List Char) : List (List Char) :=
  Text.pieces '/' (cs.map fun c => if isSlash web c then '/' else c)

/-- The path of a file has no empty segments in front. -/
def tidyFile (scheme : String) (segments : List String) : List String :=
  if isFile scheme then
    let tail := segments.dropWhile String.isEmpty
    if tail.isEmpty then [""] else tail
  else segments

/-- The segments that a path without its first separator adds to others. -/
def segmentsBelow (scheme : String) (above : List String) (cs : List Char) : List String :=
  tidyFile scheme (addSegments scheme above (splitPath (isWeb scheme) cs))

/-- The path after a host. -/
def pathAfterHost (scheme : String) (cs : List Char) : Path :=
  match cs with
  | [] => .rooted (if isWeb scheme then [""] else [])
  | c :: rest =>
    if isSlash (isWeb scheme) c then .rooted (segmentsBelow scheme [] rest)
    else .rooted (segmentsBelow scheme [] (c :: rest))

/-! ## Query and fragment -/

/-- What a text is cut into: the part before the query, the query and the fragment. -/
structure Cut where
  front : List Char
  query : Option String
  fragment : Option String

/-- Cuts query and fragment off. -/
def cut (scheme : String) (cs : List Char) : Cut :=
  let front := cs.takeWhile fun c => !endsPath c
  let fragmentOf (rest : List Char) : Option String :=
    match rest with
    | '#' :: fragment => some (String.ofList (escape plainInFragment fragment))
    | _ => none
  match cs.dropWhile fun c => !endsPath c with
  | '?' :: rest =>
    let plain := if isWeb scheme then plainInWebQuery else plainInQuery
    ⟨front, some (String.ofList (escape plain (rest.takeWhile (· != '#')))),
      fragmentOf (rest.dropWhile (· != '#'))⟩
  | rest => ⟨front, none, fragmentOf rest⟩

/-! ## Users, hosts and ports -/

/-- Cuts a text after its last at-sign. -/
def cutAtUser (cs : List Char) : Option (List Char × List Char) :=
  if cs.contains '@' then
    let host := (cs.reverse.takeWhile (· != '@')).reverse
    some (cs.take (cs.length - host.length - 1), host)
  else none

/-- The host part of a text that goes on with a port or ends; colons in brackets belong to it. -/
def takeHost : Bool → List Char → List Char × List Char
  | _, [] => ([], [])
  | inside, c :: rest =>
    if c == ':' && !inside then ([], c :: rest)
    else
      let (host, after) := takeHost (if c == '[' then true else if c == ']' then false else inside) rest
      (c :: host, after)

/-- The port behind its colon. -/
def readPort (scheme : String) (cs : List Char) : Except ReadError (Option Nat) :=
  match cs with
  | [] => .ok none
  | _ :: digits =>
    if digits.isEmpty then .ok none
    else
      match Host.numberOf 10 digits with
      | none => .error .invalidPort
      | some port =>
        if 65535 < port then .error .invalidPort
        else .ok (if standardPort scheme == some port then none else some port)

/-- User, password, host and port. -/
structure Authority where
  username : String
  password : String
  host : Host
  port : Option Nat

/-- Reads host and port behind a user. -/
def readHost (scheme username password : String) (cs : List Char) : Except ReadError Authority := do
  let (hostText, portText) := takeHost false cs
  if isWeb scheme && !isFile scheme && hostText.isEmpty then throw .emptyHost
  let host ← if isWeb scheme then Host.read hostText else Host.readOther hostText
  if host.isEmpty && (!portText.isEmpty || !username.isEmpty || !password.isEmpty) then
    throw .emptyHost
  return ⟨username, password, host, ← readPort scheme portText⟩

/-- Reads everything between the double slash and the path. -/
def readAuthority (scheme : String) (cs : List Char) : Except ReadError Authority :=
  if isFile scheme then
    if cs.isEmpty then .ok ⟨"", "", .other "", none⟩
    else do
      let host ← Host.read cs
      return ⟨"", "", if host == .domain "localhost" then .other "" else host, none⟩
  else
    match cutAtUser cs with
    | none => readHost scheme "" "" cs
    | some (user, rest) =>
      if user.isEmpty && rest.isEmpty then .error .emptyHost
      else
        let name := user.takeWhile (· != ':')
        let password := (user.dropWhile (· != ':')).drop 1
        readHost scheme (String.ofList (escape plainInUser name))
          (String.ofList (escape plainInUser password)) rest

/-- The address that follows a double slash. -/
def readAfterSlashes (scheme : String) (cs : List Char) : Except ReadError Url := do
  let parts := cut scheme cs
  let authorityText := parts.front.takeWhile fun c => !isSlash (isWeb scheme) c
  let pathText := parts.front.dropWhile fun c => !isSlash (isWeb scheme) c
  if isFile scheme && isDrive authorityText then
    return ⟨scheme, "", "", some (.other ""), none,
      .rooted (segmentsBelow scheme [] parts.front), parts.query, parts.fragment⟩
  let authority ← readAuthority scheme authorityText
  return ⟨scheme, authority.username, authority.password, some authority.host, authority.port,
    pathAfterHost scheme pathText, parts.query, parts.fragment⟩

/-! ## Whole addresses -/

/-- Whether a text begins with a double slash. -/
def hasSlashes (web : Bool) (cs : List Char) : Bool :=
  match cs with
  | a :: b :: _ => isSlash web a && isSlash web b
  | _ => false

/-- Reads a relative address against a base that has a rooted path. -/
def readRelative (base : Url) (segments : List String) (cs : List Char) : Except ReadError Url :=
  let web := isWeb base.scheme
  if hasSlashes web cs then
    if web && !isFile base.scheme then readAfterSlashes base.scheme (cs.dropWhile (isSlash web))
    else readAfterSlashes base.scheme (cs.drop 2)
  else
    let parts := cut base.scheme cs
    let moved (path : List String) : Url :=
      { base with path := .rooted path, query := parts.query, fragment := parts.fragment }
    match parts.front with
    | [] =>
      .ok { base with
        query := if parts.query.isSome then parts.query else base.query
        fragment := parts.fragment }
    | c :: rest =>
      if isSlash web c then
        let drive := segments.take 1
        let above :=
          if isFile base.scheme && drive.any (isDrive ·.toList) && !isDrive (rest.take 2) then drive
          else []
        .ok (moved (segmentsBelow base.scheme above rest))
      else if isFile base.scheme && isDrive ((c :: rest).take 2) then
        .ok (moved (segmentsBelow base.scheme [] (c :: rest)))
      else .ok (moved (segmentsBelow base.scheme (dropSegment base.scheme segments) (c :: rest)))

/-- Reads what follows a scheme and its colon. -/
def readScheme (scheme : String) (cs : List Char) : Except ReadError Url :=
  if isFile scheme then
    if hasSlashes true cs then readAfterSlashes scheme (cs.drop 2)
    else
      let parts := cut scheme cs
      .ok ⟨scheme, "", "", some (.other ""), none, pathAfterHost scheme parts.front, parts.query,
        parts.fragment⟩
  else if isWeb scheme then readAfterSlashes scheme (cs.dropWhile (isSlash true))
  else
    match cs with
    | '/' :: '/' :: rest => readAfterSlashes scheme rest
    | '/' :: rest =>
      let parts := cut scheme rest
      .ok ⟨scheme, "", "", none, none, .rooted (segmentsBelow scheme [] parts.front), parts.query,
        parts.fragment⟩
    | cs =>
      let parts := cut scheme cs
      .ok ⟨scheme, "", "", none, none, .plain (String.ofList (escape isVisible parts.front)),
        parts.query, parts.fragment⟩

/-- Reads an address that stands on its own. -/
def parse (s : String) : Except ReadError Url :=
  match takeScheme (essential s.toList) with
  | some (scheme, rest) => readScheme scheme rest
  | none => .error .relativeWithoutBase

/-- Reads an address against a base. -/
def join (base : Url) (s : String) : Except ReadError Url :=
  let cs := essential s.toList
  match takeScheme cs, base.path with
  | some (scheme, rest), .rooted segments =>
    if isWeb scheme && scheme == base.scheme && !hasSlashes true rest then
      readRelative base segments rest
    else readScheme scheme rest
  | some (scheme, rest), .plain _ => readScheme scheme rest
  | none, .rooted segments => readRelative base segments cs
  | none, .plain _ =>
    match cs with
    | '#' :: fragment =>
      .ok { base with fragment := some (String.ofList (escape plainInFragment fragment)) }
    | _ => .error .relativeToPlainPath

end Roster.Url

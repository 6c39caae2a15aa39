import Roster.Total
import Roster.Url.Escape
import Roster.Url.Form
import Roster.Url.Label

/-!
# Hosts

The host of an address on the web is a domain or an address of one of the two kinds of the internet
protocol. Other addresses name hosts of a kind that nothing is known of.
-/

namespace Roster.Url

/-- Why an address cannot be read. -/
inductive ReadError where
  | emptyHost
  | invalidDomain
  | invalidPort
  | invalidAddress4
  | invalidAddress6
  | invalidHostCharacter
  | relativeWithoutBase
  | relativeToPlainPath
  deriving DecidableEq, Repr

/-- The text of the error. -/
def ReadError.message : ReadError → String
  | .emptyHost => "empty host"
  | .invalidDomain => "invalid international domain name"
  | .invalidPort => "invalid port number"
  | .invalidAddress4 => "invalid IPv4 address"
  | .invalidAddress6 => "invalid IPv6 address"
  | .invalidHostCharacter => "invalid domain character"
  | .relativeWithoutBase => "relative URL without a base"
  | .relativeToPlainPath => "relative URL with a cannot-be-a-base base"

/-- A host. -/
inductive Host where
  | domain (name : String)
  | address4 (value : Nat)
  | address6 (pieces : List Nat)
  | other (name : String)
  deriving DecidableEq, Repr

namespace Host

/-! ## Addresses of four numbers -/

/-- The value of digits to a base, if all are digits. -/
def numberOf (base : Nat) (cs : List Char) : Option Nat :=
  cs.foldl
    (fun value c => do
      let d ← hexValue c
      if d < base then some ((← value) * base + d) else none)
    (some 0)

/-- A part of such an address: to base sixteen, eight or ten, as its first digits say. -/
def part? (cs : List Char) : Option Nat :=
  match cs with
  | [] => none
  | '0' :: 'x' :: rest => numberOf 16 rest
  | '0' :: 'X' :: rest => numberOf 16 rest
  | '0' :: rest@(_ :: _) => numberOf 8 rest
  | cs => numberOf 10 cs

/-- The parts between dots; one dot at the end does not count. -/
def parts (cs : List Char) : List (List Char) :=
  let all := Text.pieces '.' cs
  if 1 < all.length && (all.getLast?.map List.isEmpty).getD false then all.dropLast else all

/-- Whether a host has to be an address, since its last part is a number. -/
def endsInNumber (cs : List Char) : Bool :=
  match (parts cs).getLast? with
  | none => false
  | some last => (!last.isEmpty && last.all Char.isDigit) || (part? last).isSome

/-- The address of up to four numbers, of which the last fills all octets that are left. -/
def readAddress4 (cs : List Char) : Except ReadError Host :=
  match (parts cs).mapM part? with
  | none => .error .invalidAddress4
  | some numbers =>
    match numbers.getLast? with
    | none => .error .invalidAddress4
    | some last =>
      let leading := numbers.dropLast
      if 3 < leading.length || leading.any (255 < ·) || Nat.pow 256 (4 - leading.length) ≤ last then
        .error .invalidAddress4
      else
        .ok (.address4 (last +
          total ((leading.zipIdx).map fun (n, i) => n * Nat.pow 256 (3 - i))))

/-- An address of four numbers, written. -/
def writeAddress4 (n : Nat) : String :=
  toString (n / 0x1000000 % 256) ++ "." ++ toString (n / 0x10000 % 256) ++ "." ++
    toString (n / 0x100 % 256) ++ "." ++ toString (n % 256)

/-! ## Addresses of eight pieces -/

/-- A piece: one to four hexadecimal digits. -/
def piece? (cs : List Char) : Option Nat :=
  if cs.isEmpty || 4 < cs.length then none else numberOf 16 cs

/-- A number below 256, without zeros in front. -/
def octet? (cs : List Char) : Option Nat :=
  match cs with
  | [] => none
  | '0' :: _ :: _ => none
  | cs => (numberOf 10 cs).filter (· < 256)

/-- Two pieces, written as four numbers between dots. -/
def dotted? (cs : List Char) : Option (List Nat) :=
  match (Text.pieces '.' cs).mapM octet? with
  | some [a, b, c, d] => some [a * 256 + b, c * 256 + d]
  | _ => none

/-- Pieces between colons; at the very end two of them may be written as four numbers. -/
def pieces? : List (List Char) → Option (List Nat)
  | [] => some []
  | [last] => if last.contains '.' then dotted? last else (piece? last).map ([·])
  | piece :: rest => do return (← piece? piece) :: (← pieces? rest)

/-- The pieces on one side of the gap. -/
def side? (cs : List Char) : Option (List Nat) :=
  if cs.isEmpty then some [] else pieces? (Text.pieces ':' cs)

/-- Cuts a text at the first double colon. -/
def cutAtGap : List Char → Option (List Char × List Char)
  | [] => none
  | ':' :: ':' :: rest => some ([], rest)
  | c :: rest => (cutAtGap rest).map fun (before, after) => (c :: before, after)

/-- The address of eight pieces, of which a double colon stands for as many zeros as are missing. -/
def readAddress6 (cs : List Char) : Except ReadError Host :=
  match cutAtGap cs with
  | none =>
    match side? cs with
    | some pieces => if pieces.length == 8 then .ok (.address6 pieces) else .error .invalidAddress6
    | none => .error .invalidAddress6
  | some (before, after) =>
    match side? before, side? after with
    | some left, some right =>
      if left.length + right.length < 8 && !before.contains '.' then
        .ok (.address6 (left ++ List.replicate (8 - left.length - right.length) 0 ++ right))
      else .error .invalidAddress6
    | _, _ => .error .invalidAddress6

/-- How many zeros a list begins with. -/
def leadingZeros (pieces : List Nat) : Nat :=
  (pieces.takeWhile (· == 0)).length

/-- Where the longest run of zeros begins, and its length; of several the first. -/
def longestZeros : Nat → List Nat → Nat × Nat
  | _, [] => (0, 0)
  | index, n :: rest =>
    let here := leadingZeros (n :: rest)
    let later := longestZeros (index + 1) rest
    if later.2 ≤ here then (index, here) else later

/-- Pieces between colons. -/
def writePieces (pieces : List Nat) : List Char :=
  List.intercalate [':'] (pieces.map (Nat.toDigits 16))

/-- An address of eight pieces, written; the longest run of at least two zeros is a double colon. -/
def writeAddress6 (pieces : List Nat) : List Char :=
  let (start, count) := longestZeros 0 pieces
  if count < 2 then writePieces pieces
  else writePieces (pieces.take start) ++ [':', ':'] ++ writePieces (pieces.drop (start + count))

/-! ## Domains -/

/-- What a character of a domain stands for: letters lose their case, invisible characters vanish,
and the wide forms of ASCII are the same as the narrow ones. -/
def mapDomainChar (c : Char) : List Char :=
  let n := c.toNat
  if n == 0x3002 || n == 0xFF0E || n == 0xFF61 then ['.']
  else if 0xFF01 ≤ n && n ≤ 0xFF5E then [Text.lowerOne (Char.ofNat (n - 0xFEE0))]
  else if n == 0x1E9E then ['s', 's']
  else if n == 0x130 then ['i', Char.ofNat 0x307]
  else if Text.isIgnorable c && n != 0x200C && n != 0x200D then []
  else [Text.lowerOne c]

/-- Whether a character can stand in a domain. -/
def allowedInDomain (c : Char) : Bool :=
  0x80 ≤ c.toNat || (0x21 ≤ c.toNat && c.toNat < 0x7F && !"#/:<>?@[\\]^|%".contains c)

/-- A domain in ASCII. -/
def domainToAscii? (cs : List Char) : Option (List Char) := do
  let mapped := cs.flatMap mapDomainChar
  let labels ← (Text.pieces '.' mapped).mapM Label.toAscii?
  let name := List.intercalate ['.'] labels
  if name.all allowedInDomain then some name else none

/-- Whether a character cannot stand in a host of unknown kind. -/
def refusedInOther (c : Char) : Bool :=
  c.toNat == 0 || "\t\n\r #/:<>?@[\\]^|".contains c

/-- The host of an address on the web. -/
def read (cs : List Char) : Except ReadError Host :=
  match cs with
  | '[' :: rest =>
    if rest.getLast? == some ']' then readAddress6 rest.dropLast else .error .invalidAddress6
  | cs =>
    match domainToAscii? (unescaped cs) with
    | none => .error .invalidDomain
    | some [] => .error .emptyHost
    | some name =>
      if endsInNumber name then readAddress4 name else .ok (.domain (String.ofList name))

/-- The host of any other address. -/
def readOther (cs : List Char) : Except ReadError Host :=
  match cs with
  | '[' :: rest =>
    if rest.getLast? == some ']' then readAddress6 rest.dropLast else .error .invalidAddress6
  | cs =>
    if cs.any refusedInOther then .error .invalidHostCharacter
    else .ok (.other (String.ofList (escape isVisible cs)))

/-- The host, written. -/
def write : Host → String
  | .domain name => name
  | .address4 value => writeAddress4 value
  | .address6 pieces => "[" ++ String.ofList (writeAddress6 pieces) ++ "]"
  | .other name => name

/-- Whether the host has no name at all. -/
def isEmpty (h : Host) : Bool :=
  h == .other ""

end Host

end Roster.Url

import Roster.Text.Pieces
import Roster.Url.Escape

/-!
# Forms

The query of an address can hold pairs of names and values. Pairs are separated by ampersands, a
name from its value by the first equals sign; a space is written as a plus sign.
-/

namespace Roster.Url.Form

/-- What stands for itself in a name or value: letters, digits and four signs. -/
def isPlain (c : Char) : Bool :=
  c.isAlphanum || c == '*' || c == '-' || c == '.' || c == '_'

/-- How a character is written. -/
def encodeChar (c : Char) : List Char :=
  if c == ' ' then ['+']
  else if isPlain c then [c]
  else (Text.octetsOfChar c).flatMap escapedOctet

/-- How a name or value is written. -/
def encode (cs : List Char) : List Char :=
  cs.flatMap encodeChar

/-- How a name or value is read. -/
def decode (cs : List Char) : List Char :=
  unescaped (cs.map fun c => if c == '+' then ' ' else c)

/-- A pair, written. -/
def encodePair (pair : String × String) : List Char :=
  encode pair.1.toList ++ '=' :: encode pair.2.toList

/-- The pairs, written. -/
def write : List (String × String) → List Char
  | [] => []
  | [pair] => encodePair pair
  | pair :: rest => encodePair pair ++ '&' :: write rest

/-- A pair, read. -/
def decodePair (cs : List Char) : String × String :=
  (String.ofList (decode (cs.takeWhile (· != '='))),
    String.ofList (decode ((cs.dropWhile (· != '=')).drop 1)))

/-- The pairs of a query; empty parts are none. -/
def read (query : List Char) : List (String × String) :=
  ((Text.pieces '&' query).filter fun part => !part.isEmpty).map decodePair

/-- Gives a name one value. The first pair of that name takes it, later ones are dropped; a name that
does not occur is added at the end. -/
def set (name value : String) (pairs : List (String × String)) : List (String × String) :=
  match pairs with
  | [] => [(name, value)]
  | pair :: rest =>
    if pair.1 == name then (name, value) :: rest.filter fun p => p.1 != name
    else pair :: set name value rest

/-- The value of a name; of several the first. -/
def get? (name : String) (pairs : List (String × String)) : Option String :=
  (pairs.find? fun pair => pair.1 == name).map Prod.snd

/-- A name that was set has the value. -/
theorem get?_set (name value : String) (pairs : List (String × String)) :
    get? name (set name value pairs) = some value := by
  induction pairs with
  | nil => simp [set, get?]
  | cons pair rest ih =>
    simp only [set]
    split
    · simp [get?]
    · rename_i h
      simp only [get?, List.find?_cons, h] at ih ⊢
      exact ih

end Roster.Url.Form

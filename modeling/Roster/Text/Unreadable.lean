import Roster.Text.Octets

/-!
# Unreadable octets

Where the strict reading of octets as text fails first, and how.
-/

namespace Roster.Text

/-- The first place at which octets carry no character: how many octets stand before it, and how many
octets break off there, unless the text only ends too early. -/
structure Fault where
  index : Nat
  length : Option Nat
  deriving DecidableEq, Repr

/-- The text of a fault. -/
def Fault.message (f : Fault) : String :=
  match f.length with
  | some length =>
    "invalid utf-8 sequence of " ++ toString length ++ " bytes from index " ++ toString f.index
  | none => "incomplete utf-8 byte sequence from index " ++ toString f.index

/-- Whether a first octet and those after it carry a character. -/
def carries (first : Nat) (rest : List Nat) : Bool :=
  (readChar first rest).1 != replacement || (first :: rest).take 3 == octetsOfChar replacement

/-- The first fault from `index` on; the first `skip` octets belong to a character that has been
read. -/
def faultFrom : Nat → Nat → List Nat → Option Fault
  | _, _, [] => none
  | index, skip + 1, _ :: rest => faultFrom (index + 1) skip rest
  | index, 0, first :: rest =>
    let more := (readChar first rest).2
    if carries first rest then faultFrom (index + 1) more rest
    else if more = rest.length && more + 1 < lengthFrom first then some ⟨index, none⟩
    else some ⟨index, some (more + 1)⟩

/-- The first fault of octets. -/
def fault? (octets : List Nat) : Option Fault :=
  faultFrom 0 0 octets

end Roster.Text

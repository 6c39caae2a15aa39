import Roster.Url.Parse

/-!
# The address bar

The address that is shown, with the addresses shown before it. Changing a parameter leads to a new
address and remembers the old one.
-/

namespace Roster.Url

/-- The current address and those before it, the latest first. -/
structure History where
  current : Url
  past : List Url
  deriving Repr

namespace History

/-- A history that begins at an address. -/
def start (u : Url) : History := ⟨u, []⟩

/-- The value of a name in the query of the current address. -/
def parameter? (h : History) (name : String) : Option String :=
  h.current.parameter? name

/-- Goes on to the address with a value for a name in its query. -/
def push (h : History) (name value : String) : History :=
  ⟨h.current.setParameter name value, h.current :: h.past⟩

/-- How many addresses have been left. -/
def length (h : History) : Nat :=
  h.past.length

end History

end Roster.Url

/-!
# Variables

The variables of the environment: texts by name.
-/

namespace Roster

/-- Variables with their values. -/
structure Variables where
  entries : List (String × String)
  deriving DecidableEq, Repr

namespace Variables

/-- No variables at all. -/
def empty : Variables := ⟨[]⟩

/-- The value of a variable. -/
def get? (v : Variables) (name : String) : Option String :=
  (v.entries.find? fun entry => entry.1 == name).map Prod.snd

/-- Gives a variable a value, in place of the one it had. -/
def set (v : Variables) (name value : String) : Variables :=
  ⟨(name, value) :: v.entries.filter fun entry => entry.1 != name⟩

/-- Gives a variable a value, if there is one to give. -/
def setSome (v : Variables) (name : String) : Option String → Variables
  | some value => v.set name value
  | none => v

/-- Gives a variable a value, unless it has one. -/
def setMissing (v : Variables) (name value : String) : Variables :=
  if (v.get? name).isSome then v else v.set name value

end Variables

end Roster

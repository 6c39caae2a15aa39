/-!
# Tables of codes and labels

A table gives each of its codes one label. Its entries stand in the order of their codes, so two
tables with the same labels are equal.
-/

namespace Roster

/-- A table from codes to labels, its entries in the order of their codes. -/
structure Choices where
  entries : List (String × String)
  deriving DecidableEq, Repr

namespace Choices

/-- The table without entries. -/
def empty : Choices := ⟨[]⟩

/-- Gives `code` a label in a list of entries that stand in order. -/
def place (code label : String) : List (String × String) → List (String × String)
  | [] => [(code, label)]
  | entry :: rest =>
    if code < entry.1 then (code, label) :: entry :: rest
    else if code == entry.1 then (code, label) :: rest
    else entry :: place code label rest

/-- Gives `code` a label, in place of the one it had. -/
def insert (choices : Choices) (code label : String) : Choices :=
  ⟨place code label choices.entries⟩

/-- The table of a list of entries, of which the later ones win. -/
def ofList (entries : List (String × String)) : Choices :=
  entries.foldl (fun choices entry => choices.insert entry.1 entry.2) empty

/-- The label of a code. -/
def get? (choices : Choices) (code : String) : Option String :=
  (choices.entries.find? fun entry => entry.1 == code).map Prod.snd

/-- The label of a code, or nothing at all for an unknown one. -/
def label (choices : Choices) (code : String) : String :=
  (choices.get? code).getD ""

end Choices

end Roster

/-!
# Padded text

A text that is short of a width is filled up with spaces in front.
-/

namespace Roster.Text

/-- A text at the right end of a width. -/
def padded (width : Nat) (s : String) : String :=
  String.ofList (List.replicate (width - s.length) ' ') ++ s

end Roster.Text

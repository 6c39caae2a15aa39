import Roster.Screen.Widget
import Roster.Text.Padded

/-!
# What both clients draw alike

Styles and pieces of text that the terminal and the web page share.
-/

namespace Roster.Screen.Theme

/-- The blue of what is chosen. -/
def blue : Color := .rgb 0 0 238

/-- What is chosen: the row under the cursor, and the page shown. -/
def chosen : Style := (Style.colored .white).strong.on blue

/-- Names of keys. -/
def key : Style := (Style.colored .yellow).strong

/-- What stands back. -/
def quiet : Style := .colored .gray

/-- What can be pressed. -/
def link : Style := .colored .cyan

/-- The titles of the columns of the directory. -/
def columnTitles : List String :=
  ["Rank", "Name", "Overall Score", "Funding Round", "RTO Policy", "Profile Completeness"]

/-- The mark of a check box. -/
def mark (checked : Bool) : String :=
  if checked then "[x]" else "[ ]"

end Roster.Screen.Theme

import Roster.Popup.View
import Roster.Screen.Theme

/-!
# The details of the popup, line by line

Both clients list the details of an organization under the same labels. Whether the organization
gives ratings has a line only when it is known.
-/

namespace Roster.Popup

open Roster.Screen

/-- The labels of the details, each with its value. -/
def View.details (v : View) : List (String × String) :=
  [("URL:", v.url.getD ""), ("Type:", v.kind), ("Funding Round:", v.fundingRound),
   ("RTO Policy:", v.rtoPolicy)] ++
    (match v.givesRatings with
      | some answer => [("Gives Ratings:", answer)]
      | none => []) ++
    [("Accelerated Vesting:", v.acceleratedVesting), ("Rank:", v.ranking),
     ("Profile Completeness:", v.completeness)]

/-- The details, line by line, with a style for the values. -/
def View.detailLines (v : View) (style : Style) : List Line :=
  v.details.map fun (label, value) =>
    .of [⟨Text.padded 21 label ++ " ", Theme.quiet⟩, ⟨value, style⟩]

end Roster.Popup

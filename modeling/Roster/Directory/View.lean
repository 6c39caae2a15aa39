import Roster.Directory.Basic
import Roster.Figures

/-!
# What the directory shows

The texts of the table, its page buttons and its filters, ready to be drawn.
-/

namespace Roster.Directory

/-- A row of the table. -/
structure RowView where
  id : OrganizationId
  ranking : String
  name : String
  link : String
  averageScore : String
  fundingRound : String
  rtoPolicy : String
  completeness : String
  deriving DecidableEq, Repr

/-- A button that leads to a page. -/
structure PageButton where
  number : Nat
  active : Bool
  deriving DecidableEq, Repr

/-- Everything shown. -/
structure View where
  term : String
  vestingOnly : Bool
  page : Nat
  pages : List PageButton
  rows : List RowView
  total : Nat
  noMatches : Bool
  deriving DecidableEq, Repr

/-- The row of an organization. -/
def rowView (d : Directory) (o : Organization) : RowView where
  id := o.id
  ranking := toString o.ranking
  name := o.name
  link := "/organization/" ++ toString o.id
  averageScore := Figures.score o.averageScore
  fundingRound := d.fundingRoundLabel o.fundingRound
  rtoPolicy := d.rtoPolicyLabel o.rtoPolicy
  completeness := Figures.percent o.completeness

/-- The page buttons, of which that of the page shown is active. -/
def pageButtons (d : Directory) : List PageButton :=
  d.pageNumbers.map fun number => ⟨number, number == d.page⟩

/-- Everything shown. -/
def view (d : Directory) : View where
  term := d.filter.term
  vestingOnly := d.filter.vestingOnly
  page := d.page
  pages := d.pageButtons
  rows := d.rows.map d.rowView
  total := d.listed.length
  noMatches := d.listed.isEmpty

end Roster.Directory

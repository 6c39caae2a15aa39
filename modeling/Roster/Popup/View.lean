import Roster.Figures
import Roster.Organization.Codes
import Roster.Popup.Basic

/-!
# What the popup shows

The texts of the popup, ready to be drawn. While scores are awaited no lines are shown. Otherwise
scores that came with the organization win over fetched ones, and without any the overall score
stands alone.
-/

namespace Roster.Popup

/-- A line of the scores. -/
structure ScoreRow where
  name : String
  score : String
  deriving DecidableEq, Repr

/-- The scores shown. -/
inductive ScoresView where
  | loading
  | rows (rows : List ScoreRow)
  deriving DecidableEq, Repr

/-- Everything shown. -/
structure View where
  name : String
  url : Option String
  kind : String
  fundingRound : String
  rtoPolicy : String
  givesRatings : Option String
  acceleratedVesting : String
  ranking : String
  completeness : String
  scores : ScoresView
  deriving DecidableEq, Repr

/-- The name of the only line when there are no scores. -/
def overallScore : String := "Overall Score"

/-- What is shown while scores are loading. -/
def loadingScores : String := "Loading scores..."

/-- The line of a score. -/
def scoreRow (s : Score) : ScoreRow :=
  ⟨s.kind, Figures.score s.average⟩

/-- The lines of the scores of an organization, or its overall score when there are none. -/
def scoreRows (o : Organization) (scores : List Score) : List ScoreRow :=
  if scores.isEmpty then [⟨overallScore, Figures.score o.averageScore⟩] else scores.map scoreRow

/-- The scores fetched for an organization, as long as they are the ones the popup holds. -/
def fetchedFor (p : Popup) (o : Organization) : List Score :=
  match p.scores with
  | .loaded id scores => if id == o.id then scores else []
  | _ => []

/-- Whether the popup waits for the scores of an organization. -/
def waitsFor (p : Popup) (o : Organization) : Bool :=
  match p.scores with
  | .loading id => id == o.id
  | _ => false

/-- The scores shown for an organization. -/
def scoresView (p : Popup) (o : Organization) : ScoresView :=
  if p.waitsFor o then .loading
  else .rows (scoreRows o (o.knownScores.getD (p.fetchedFor o)))

/-- Everything shown for an organization. -/
def viewOf (p : Popup) (o : Organization) : View where
  name := o.name
  url := o.url
  kind := ((o.kind.bind OrganizationKind.parse?).map OrganizationKind.label).getD ""
  fundingRound := ((FundingRound.parse? o.fundingRound).map FundingRound.label).getD ""
  rtoPolicy := ((RtoPolicy.parse? o.rtoPolicy).map RtoPolicy.label).getD ""
  givesRatings := o.givesRatings.map Figures.yesNo
  acceleratedVesting := Figures.yesNo o.acceleratedVesting
  ranking := toString o.ranking
  completeness := Figures.percent o.completeness
  scores := p.scoresView o

/-- Everything shown, when there is an organization to show. -/
def view (p : Popup) (organization : Option Organization) (visible : Bool) : Option View :=
  if visible then organization.map p.viewOf else none

end Roster.Popup

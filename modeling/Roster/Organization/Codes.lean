import Roster.Choices
import Roster.Text.Blank

/-!
# Codes of an organization

Funding rounds, policies on remote work and kinds of organization are written as one letter each,
and shown by a label. Blanks around a letter do not matter.
-/

namespace Roster

/-- How far an organization has been funded. -/
inductive FundingRound where
  | seed
  | seriesA
  | seriesB
  | seriesC
  | seriesD
  | seriesE
  | seriesF
  | seriesGOrLater
  | otherPrivate
  | onMarket
  deriving DecidableEq, Repr

namespace FundingRound

/-- Every round, the earliest first. -/
def all : List FundingRound :=
  [.seed, .seriesA, .seriesB, .seriesC, .seriesD, .seriesE, .seriesF, .seriesGOrLater,
   .otherPrivate, .onMarket]

/-- The letter of a round. -/
def code : FundingRound → String
  | .seed => "S"
  | .seriesA => "A"
  | .seriesB => "B"
  | .seriesC => "C"
  | .seriesD => "D"
  | .seriesE => "E"
  | .seriesF => "F"
  | .seriesGOrLater => "X"
  | .otherPrivate => "O"
  | .onMarket => "P"

/-- The label of a round. -/
def label : FundingRound → String
  | .seed => "Seed"
  | .seriesA => "Series A"
  | .seriesB => "Series B"
  | .seriesC => "Series C"
  | .seriesD => "Series D"
  | .seriesE => "Series E"
  | .seriesF => "Series F"
  | .seriesGOrLater => "Series G or Later"
  | .otherPrivate => "Other Private"
  | .onMarket => "Public"

/-- The round of a letter. -/
def parse? (s : String) : Option FundingRound :=
  all.find? fun round => round.code == Text.trimmed s

/-- The table of all rounds. -/
def choices : Choices :=
  Choices.ofList (all.map fun round => (round.code, round.label))

end FundingRound

/-- Where the people of an organization work. -/
inductive RtoPolicy where
  | remote
  | hybrid
  | inOffice
  deriving DecidableEq, Repr

namespace RtoPolicy

/-- Every policy. -/
def all : List RtoPolicy := [.remote, .hybrid, .inOffice]

/-- The letter of a policy. -/
def code : RtoPolicy → String
  | .remote => "R"
  | .hybrid => "H"
  | .inOffice => "O"

/-- The label of a policy. -/
def label : RtoPolicy → String
  | .remote => "Remote"
  | .hybrid => "Hybrid"
  | .inOffice => "In-Office"

/-- The policy of a letter. -/
def parse? (s : String) : Option RtoPolicy :=
  all.find? fun policy => policy.code == Text.trimmed s

/-- The table of all policies. -/
def choices : Choices :=
  Choices.ofList (all.map fun policy => (policy.code, policy.label))

end RtoPolicy

/-- What an organization works for. -/
inductive OrganizationKind where
  | company
  | nonProfit
  deriving DecidableEq, Repr

namespace OrganizationKind

/-- Every kind. -/
def all : List OrganizationKind := [.company, .nonProfit]

/-- The letter of a kind. -/
def code : OrganizationKind → String
  | .company => "C"
  | .nonProfit => "N"

/-- The label of a kind. -/
def label : OrganizationKind → String
  | .company => "Company (for profit)"
  | .nonProfit => "Non-Profit Organization"

/-- The kind of a letter. -/
def parse? (s : String) : Option OrganizationKind :=
  all.find? fun kind => kind.code == Text.trimmed s

end OrganizationKind

end Roster

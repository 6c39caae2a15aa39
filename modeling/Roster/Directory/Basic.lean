import Roster.Directory.Filter
import Roster.Directory.Page
import Roster.Step

/-!
# The directory

The directory holds the organizations, the indices of those that pass the filter, the page that is
shown, the tables of labels, and which organization is selected or waited for. Its state changes
only through the functions of this module.
-/

namespace Roster

/-- The state of the directory. -/
structure Directory where
  organizations : List Organization
  listed : List Nat
  fundingRounds : Choices
  rtoPolicies : Choices
  page : Nat
  pageSize : PageSize
  filter : Filter
  selected : Option OrganizationId
  popupVisible : Bool
  pending : Option OrganizationId

namespace Directory

/-- The name of the address parameter that holds the page. -/
def pageParameter : String := "page"

/-- What is shown in place of rows when nothing passes the filter. -/
def noMatches : String := "There are no organizations that match the selected filters."

/-- The directory of a list, opened at the page that the address names. -/
def ofList (organizations : List Organization) (pageSize : PageSize) (page : Option String) :
    Directory where
  organizations := organizations
  listed := List.range organizations.length
  fundingRounds := .empty
  rtoPolicies := .empty
  page := Page.parse page
  pageSize := pageSize
  filter := .none
  selected := none
  popupVisible := false
  pending := none

/-- What to ask for once the directory is on screen. -/
def firstRequests : List Request :=
  [.fundingRounds, .rtoPolicies]

/-- The organization of an id; of several the first. -/
def organization? (d : Directory) (id : OrganizationId) : Option Organization :=
  d.organizations.find? fun o => o.id == id

/-- The organization whose popup is shown. -/
def selectedOrganization (d : Directory) : Option Organization :=
  d.selected.bind d.organization?

/-! ## Filters and pages -/

/-- Lists the organizations that pass another filter. The page stays, even past the end. -/
def withFilter (d : Directory) (filter : Filter) : Directory :=
  { d with filter := filter, listed := filter.apply d.organizations }

/-- Searches for another term. -/
def search (d : Directory) (term : String) : Directory :=
  d.withFilter { d.filter with term := term }

/-- Asks for accelerated vesting, or no longer. -/
def setVesting (d : Directory) (only : Bool) : Directory :=
  d.withFilter { d.filter with vestingOnly := only }

/-- Turns the vesting filter over. -/
def toggleVesting (d : Directory) : Directory :=
  d.setVesting (!d.filter.vestingOnly)

/-- Shows another page. -/
def turnTo (d : Directory) (page : Nat) : Directory :=
  { d with page := page }

/-- The organizations that pass the filter. -/
def matching (d : Directory) : List Organization :=
  d.listed.filterMap fun index => d.organizations[index]?

/-- The organizations on the page. -/
def rows (d : Directory) : List Organization :=
  (Page.slice d.listed d.page d.pageSize).filterMap fun index => d.organizations[index]?

/-- The numbers of the pages. -/
def pageNumbers (d : Directory) : List Nat :=
  Page.numbers d.listed.length d.pageSize

/-! ## Selection -/

/-- Shows the popup of an organization. -/
def openPopup (d : Directory) (id : OrganizationId) : Directory :=
  { d with selected := some id, popupVisible := true }

/-- Hides the popup. -/
def closePopup (d : Directory) : Directory :=
  { d with selected := none, popupVisible := false }

/-- Activates an organization. Its popup is shown at once when its details are known; otherwise they
are asked for, and the popup waits for them. -/
def activate (d : Directory) (id : OrganizationId) : Step Directory :=
  match d.organization? id with
  | none =>
    ⟨d, [], [⟨.warning, "activated an organization that is not in the directory id=" ++ toString id⟩]⟩
  | some o =>
    if o.hasDetail then .silent ({ d with pending := none }.openPopup id)
    else ⟨{ d with pending := some id }, [.detail id], []⟩

/-! ## Answers -/

/-- Changes the first organization that has the id. -/
def updateFirst (id : OrganizationId) (f : Organization → Organization) :
    List Organization → List Organization
  | [] => []
  | o :: rest => if o.id == id then f o :: rest else o :: updateFirst id f rest

/-- Shows the popup if it waited for this organization. -/
def settle (d : Directory) (id : OrganizationId) : Directory :=
  if d.pending == some id then { d with pending := none }.openPopup id else d

/-- The line for the log when something could not be fetched. -/
def complaint (what : String) (e : FetchError) : LogLine :=
  ⟨.error, "Error fetching " ++ what ++ ": " ++ e.message⟩

/-- Takes in a table of funding rounds. -/
def receiveFundingRounds (d : Directory) : Fetched Choices → Step Directory
  | .ok choices => .silent { d with fundingRounds := choices }
  | .error e => ⟨d, [], [complaint "funding round choices" e]⟩

/-- Takes in a table of policies. -/
def receiveRtoPolicies (d : Directory) : Fetched Choices → Step Directory
  | .ok choices => .silent { d with rtoPolicies := choices }
  | .error e => ⟨d, [], [complaint "RTO policy choices" e]⟩

/-- Takes in details. The popup that waited for them is shown even when they could not be fetched. -/
def receiveDetail (d : Directory) (id : OrganizationId) : Fetched OrganizationDetail → Step Directory
  | .ok detail =>
    let merged := updateFirst id (·.mergeDetail detail) d.organizations
    .silent ({ d with organizations := merged }.settle id)
  | .error e => ⟨d.settle id, [], [complaint "organization details" e]⟩

/-! ## Labels -/

/-- The label of a funding round, as far as the table is known. -/
def fundingRoundLabel (d : Directory) (code : String) : String :=
  d.fundingRounds.label code

/-- The label of a policy, as far as the table is known. -/
def rtoPolicyLabel (d : Directory) (code : String) : String :=
  d.rtoPolicies.label code

/-- A change to one organization keeps the length of the list. -/
@[simp] theorem length_updateFirst (id : OrganizationId) (f : Organization → Organization)
    (os : List Organization) : (updateFirst id f os).length = os.length := by
  induction os with
  | nil => rfl
  | cons o rest ih =>
    simp only [updateFirst]
    split <;> simp [ih]

end Directory

end Roster

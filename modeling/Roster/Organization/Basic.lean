import Roster.Text.Lowercase

/-!
# Organizations

An organization is listed with the fields of its row. Further fields become known when its details
arrive, which are merged into the record field by field.
-/

namespace Roster

/-- The number that names an organization. -/
abbrev OrganizationId := Int

/-- The average of one kind of score. -/
structure Score where
  kind : String
  average : Float
  deriving Repr

/-- An organization. The optional fields are unknown until details arrive. -/
structure Organization where
  id : OrganizationId
  name : String
  ranking : Int
  averageScore : Float
  fundingRound : String
  rtoPolicy : String
  completeness : Float
  acceleratedVesting : Bool
  url : Option String
  kind : Option String
  givesRatings : Option Bool
  isPublic : Option Bool
  scores : Option (List Score)
  deriving Repr

/-- The details of an organization, each of which may be missing. -/
structure OrganizationDetail where
  id : Option OrganizationId
  name : Option String
  kind : Option String
  url : Option String
  givesRatings : Option Bool
  isPublic : Option Bool
  acceleratedVesting : Option Bool
  fundingRound : Option String
  rtoPolicy : Option String
  scores : Option (List Score)
  deriving Repr

/-- Details that say nothing. -/
def OrganizationDetail.blank : OrganizationDetail :=
  ⟨none, none, none, none, none, none, none, none, none, none⟩

namespace Organization

/-- The details are known once both the address and the kind are. -/
def hasDetail (o : Organization) : Bool :=
  o.url.isSome && o.kind.isSome

/-- The scores that can be shown at once; an empty list counts as none. -/
def knownScores (o : Organization) : Option (List Score) :=
  o.scores.filter fun scores => !scores.isEmpty

/-- Whether `part` occurs in `whole` in one piece. -/
def occurs (part : List Char) : List Char → Bool
  | [] => part.isEmpty
  | c :: rest => part.isPrefixOf (c :: rest) || occurs part rest

/-- Whether the name, in lower case, contains the text. -/
def matchesSearch (o : Organization) (needle : List Char) : Bool :=
  occurs needle (Text.lower o.name.toList)

/-- Takes over every field that the details give. -/
def mergeDetail (o : Organization) (d : OrganizationDetail) : Organization :=
  { o with
    name := d.name.getD o.name
    fundingRound := d.fundingRound.getD o.fundingRound
    rtoPolicy := d.rtoPolicy.getD o.rtoPolicy
    acceleratedVesting := d.acceleratedVesting.getD o.acceleratedVesting
    url := d.url.or o.url
    kind := d.kind.or o.kind
    givesRatings := d.givesRatings.or o.givesRatings
    isPublic := d.isPublic.or o.isPublic
    scores := d.scores.or o.scores }

/-- Known details stay known. -/
theorem hasDetail_mergeDetail {o : Organization} (h : o.hasDetail = true) (d : OrganizationDetail) :
    (o.mergeDetail d).hasDetail = true := by
  simp only [hasDetail, Bool.and_eq_true] at h ⊢
  simp [mergeDetail, h]

end Organization

end Roster

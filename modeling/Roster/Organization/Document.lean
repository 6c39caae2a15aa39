import Roster.Choices
import Roster.Json.Decode
import Roster.Json.Value
import Roster.Organization.Basic

/-!
# Organizations as documents

How organizations, their details, their scores and tables of choices are written as documents and
read back. An organization leaves its unknown fields out; details write them as nulls.
-/

namespace Roster

namespace Score

/-- The score as a document. -/
def document (s : Score) : Json :=
  .record [("type__name", .text s.kind), ("avg_score", .real s.average)]

/-- How a score is read. -/
def shape : Json.RecordShape Score where
  kind := "ScoreDetail"
  blank := ⟨"", 0.0⟩
  fields :=
    [.always "type__name" Json.Reader.quotedText fun v s => { s with kind := v },
     .always "avg_score" Json.Reader.double fun v s => { s with average := v }]

/-- A list of scores as a document. -/
def documents (scores : List Score) : Json :=
  .list (scores.map document)

/-- Reads a list of scores. -/
def listReader : Json.Reader (List Score) :=
  Json.Reader.listOf shape.read

end Score

namespace Organization

/-- A field that is left out while unknown. -/
def knownField {α : Type} (label : String) (encode : α → Json) :
    Option α → List (String × Json)
  | none => []
  | some value => [(label, encode value)]

/-- The fields of the organization in writing. -/
def fields (o : Organization) : List (String × Json) :=
  [("id", .integer o.id), ("name", .text o.name), ("ranking", .integer o.ranking),
   ("avg_score", .real o.averageScore), ("funding_round", .text o.fundingRound),
   ("rto_policy", .text o.rtoPolicy), ("profile_completeness", .real o.completeness),
   ("accelerated_vesting", .boolean o.acceleratedVesting)] ++
  knownField "url" .text o.url ++ knownField "type" .text o.kind ++
  knownField "gives_ratings" .boolean o.givesRatings ++ knownField "public" .boolean o.isPublic ++
  knownField "avg_scores" Score.documents o.scores

/-- The organization as a document. -/
def document (o : Organization) : Json :=
  .record o.fields

/-- An organization of which nothing is known. -/
def blank : Organization :=
  ⟨0, "", 0, 0.0, "", "", 0.0, false, none, none, none, none, none⟩

/-- How an organization is read. -/
def shape : Json.RecordShape Organization where
  kind := "Organization"
  blank := blank
  fields :=
    [.always "id" Json.Reader.signed fun v o => { o with id := v },
     .always "name" Json.Reader.quotedText fun v o => { o with name := v },
     .always "ranking" Json.Reader.signed fun v o => { o with ranking := v },
     .always "avg_score" Json.Reader.double fun v o => { o with averageScore := v },
     .always "funding_round" Json.Reader.quotedText fun v o => { o with fundingRound := v },
     .always "rto_policy" Json.Reader.quotedText fun v o => { o with rtoPolicy := v },
     .always "profile_completeness" Json.Reader.double fun v o => { o with completeness := v },
     .always "accelerated_vesting" Json.Reader.boolean fun v o => { o with acceleratedVesting := v },
     .sometimes "url" Json.Reader.quotedText fun v o => { o with url := v },
     .sometimes "type" Json.Reader.quotedText fun v o => { o with kind := v },
     .sometimes "gives_ratings" Json.Reader.boolean fun v o => { o with givesRatings := v },
     .sometimes "public" Json.Reader.boolean fun v o => { o with isPublic := v },
     .sometimes "avg_scores" Score.listReader fun v o => { o with scores := v }]

/-- A list of organizations as a document. -/
def documents (organizations : List Organization) : Json :=
  .list (organizations.map document)

/-- Reads a list of organizations. -/
def listReader : Json.Reader (List Organization) :=
  Json.Reader.listOf shape.read

end Organization

namespace OrganizationDetail

/-- The fields of the details in writing. -/
def fields (d : OrganizationDetail) : List (String × Json) :=
  [("id", .ofOption .integer d.id), ("name", .ofOption .text d.name),
   ("type", .ofOption .text d.kind), ("url", .ofOption .text d.url),
   ("gives_ratings", .ofOption .boolean d.givesRatings),
   ("public", .ofOption .boolean d.isPublic),
   ("accelerated_vesting", .ofOption .boolean d.acceleratedVesting),
   ("funding_round", .ofOption .text d.fundingRound),
   ("rto_policy", .ofOption .text d.rtoPolicy),
   ("avg_scores", .ofOption Score.documents d.scores)]

/-- The details as a document. -/
def document (d : OrganizationDetail) : Json :=
  .record d.fields

/-- How details are read. -/
def shape : Json.RecordShape OrganizationDetail where
  kind := "OrganizationDetail"
  blank := blank
  fields :=
    [.sometimes "id" Json.Reader.signed fun v d => { d with id := v },
     .sometimes "name" Json.Reader.quotedText fun v d => { d with name := v },
     .sometimes "type" Json.Reader.quotedText fun v d => { d with kind := v },
     .sometimes "url" Json.Reader.quotedText fun v d => { d with url := v },
     .sometimes "gives_ratings" Json.Reader.boolean fun v d => { d with givesRatings := v },
     .sometimes "public" Json.Reader.boolean fun v d => { d with isPublic := v },
     .sometimes "accelerated_vesting" Json.Reader.boolean
       fun v d => { d with acceleratedVesting := v },
     .sometimes "funding_round" Json.Reader.quotedText fun v d => { d with fundingRound := v },
     .sometimes "rto_policy" Json.Reader.quotedText fun v d => { d with rtoPolicy := v },
     .sometimes "avg_scores" Score.listReader fun v d => { d with scores := v }]

end OrganizationDetail

namespace Choices

/-- The table as a document. -/
def document (choices : Choices) : Json :=
  .record (choices.entries.map fun entry => (entry.1, .text entry.2))

/-- Reads a table; of two entries with one code the later one wins. -/
def reader : Json.Reader Choices := do
  return ofList (← Json.Reader.dictionaryOf Json.Reader.quotedText)

end Choices

end Roster

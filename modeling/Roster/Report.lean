import Roster.Directory.View
import Roster.Json.Value
import Roster.Terminal.Session
import Roster.Text.Padded

/-!
# Reports

A report is the page of a session without the screen around it, as lines of text or as a document.
-/

namespace Roster

/-- A page of the directory, ready to be printed. -/
structure Report where
  url : String
  page : Nat
  pageCount : Nat
  total : Nat
  rows : List Directory.RowView
  deriving DecidableEq, Repr

namespace Report

/-- The page that a session shows. -/
def ofSession (s : Terminal.Session) : Report :=
  let v := s.directory.view
  ⟨s.address.current.write, v.page, v.pages.length, v.total, v.rows⟩

/-- A row as a line. -/
def rowLine (row : Directory.RowView) : String :=
  String.intercalate " | "
    [Text.padded 4 row.ranking, row.name, row.averageScore, row.fundingRound, row.rtoPolicy,
     row.completeness]

/-- The lines above the rows. -/
def heading (r : Report) : List String :=
  ["", "Organizations (" ++ r.url ++ ")", "=================",
   "Page " ++ toString r.page ++ " of " ++ toString r.pageCount ++ " | " ++ toString r.total ++
     " matching organizations", ""]

/-- The rows as lines. A page without rows says that nothing matches. -/
def body (r : Report) : List String :=
  if r.rows.isEmpty then [Directory.noMatches] else r.rows.map rowLine

/-- The report as lines. -/
def lines (r : Report) : List String :=
  r.heading ++ r.body

/-- The report as text. -/
def text (r : Report) : String :=
  String.join (r.lines.map (· ++ "\n"))

/-- A row as a document. -/
def rowDocument (row : Directory.RowView) : Json :=
  .record
    [("id", .integer row.id), ("ranking", .text row.ranking), ("name", .text row.name),
     ("link", .text row.link), ("avg_score", .text row.averageScore),
     ("funding_round", .text row.fundingRound), ("rto_policy", .text row.rtoPolicy),
     ("profile_completeness", .text row.completeness)]

/-- The report as a document. -/
def document (r : Report) : Json :=
  .record
    [("url", .text r.url), ("current_page", .integer r.page), ("page_count", .integer r.pageCount),
     ("total_matches", .integer r.total), ("rows", .list (r.rows.map rowDocument))]

/-- The report as it is printed. -/
def printed (r : Report) (json : Bool) : String :=
  if json then r.document.pretty ++ "\n" else r.text

end Report

end Roster

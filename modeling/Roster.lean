import Roster.Choices
import Roster.Decimal.Binary
import Roster.Decimal.Fixed
import Roster.Decimal.Shortest
import Roster.Directory.Basic
import Roster.Directory.Filter
import Roster.Directory.Page
import Roster.Directory.Turning
import Roster.Directory.View
import Roster.Disk.Basic
import Roster.Disk.Path
import Roster.Figures
import Roster.Focus
import Roster.Json.Decode
import Roster.Json.Error
import Roster.Json.Parse
import Roster.Json.Reader
import Roster.Json.Value
import Roster.Listeners
import Roster.Main
import Roster.Organization.Basic
import Roster.Organization.Codes
import Roster.Organization.Document
import Roster.Payload
import Roster.Popup.Basic
import Roster.Popup.Lines
import Roster.Popup.View
import Roster.Program.Headless
import Roster.Program.Outcome
import Roster.Program.Seeding
import Roster.Program.Usage
import Roster.Report
import Roster.Request
import Roster.Screen.Area
import Roster.Screen.Canvas
import Roster.Screen.Stroke
import Roster.Screen.Style
import Roster.Screen.Theme
import Roster.Screen.Widget
import Roster.Screen.Wrap
import Roster.Settings.Arguments
import Roster.Settings.Basic
import Roster.Settings.VariableFile
import Roster.Settings.Variables
import Roster.Source.Basic
import Roster.Source.Markup
import Roster.Source.Remote
import Roster.Step
import Roster.Store.Basic
import Roster.Store.Demo
import Roster.Store.Listing
import Roster.Store.Locator
import Roster.Store.Mean
import Roster.Store.Opening
import Roster.Store.Register
import Roster.Store.Source
import Roster.Terminal.Drawing
import Roster.Terminal.Exchange
import Roster.Terminal.Input
import Roster.Terminal.Layout
import Roster.Terminal.Session
import Roster.Text.Blank
import Roster.Text.Cased
import Roster.Text.CodeRange
import Roster.Text.Columns
import Roster.Text.Lowercase
import Roster.Text.Marks
import Roster.Text.Octets
import Roster.Text.Padded
import Roster.Text.Pieces
import Roster.Text.Quoted
import Roster.Text.Search
import Roster.Text.Unreadable
import Roster.Total
import Roster.Url.Basic
import Roster.Url.Escape
import Roster.Url.Form
import Roster.Url.History
import Roster.Url.Host
import Roster.Url.Label
import Roster.Url.Parse
import Roster.Web.Drawing
import Roster.Web.Session
import Roster.Web.Spinner
import Roster.Word
import Roster.Proofs.Directory.Listing
import Roster.Proofs.Terminal.Dialogue
import Roster.Proofs.Directory.Selection
import Roster.Proofs.Popup.Sync
import Roster.Proofs.Terminal.Phase
import Roster.Proofs.Terminal.Waiting
import Roster.Proofs.Terminal.Showing
import Roster.Proofs.Terminal.Overtaking
import Roster.Proofs.Popup.Listening
import Roster.Proofs.Terminal.InLine
import Roster.Proofs.Directory.Knowledge
import Roster.Proofs.Text.Octets
import Roster.Proofs.Url.Form
import Roster.Proofs.Directory.Paging
import Roster.Proofs.Terminal.Address
import Roster.Proofs.Web.Agreement
import Roster.Proofs.Directory.Arrival
import Roster.Proofs.Directory.Awaiting
import Roster.Proofs.Directory.Coverage
import Roster.Proofs.Popup.Scene
import Roster.Proofs.Store.Integrity
import Roster.Proofs.Store.Run
import Roster.Proofs.Decimal.Average
import Roster.Proofs.Decimal.Order
import Roster.Proofs.Store.Ranking
import Roster.Proofs.Json.Collections
import Roster.Proofs.Json.Numbers
import Roster.Proofs.Json.Records
import Roster.Proofs.Organization.RoundTrip
import Roster.Proofs.Directory.Bounds
import Roster.Proofs.Store.Seeding
import Roster.Proofs.Screen.Strokes
import Roster.Proofs.Terminal.Rows
import Roster.Proofs.Terminal.Clicks
import Roster.Proofs.Web.NoMatches
import Roster.Proofs.Text.Lowercase
import Roster.Proofs.Directory.Search
import Roster.Proofs.Popup.Asking
import Roster.Proofs.History
import Roster.Proofs.Popup.Supplied
import Roster.Proofs.Terminal.Status
import Roster.Proofs.Url.Update
import Roster.Proofs.Terminal.Cursor
import Roster.Proofs.Screen.PlainText
import Roster.Proofs.Terminal.ButtonSpans
import Roster.Proofs.Terminal.Counting
import Roster.Proofs.Terminal.PageButtons
import Roster.Proofs.Terminal.ButtonEnds
import Roster.Proofs.Terminal.Dismissal
import Roster.Proofs.Terminal.Modal
import Roster.Proofs.Web.Turning
import Roster.Proofs.Text.Boundaries
import Roster.Proofs.Source.Elements
import Roster.Proofs.Source.FirstElement
import Roster.Proofs.Organization.Mounting
import Roster.Proofs.Text.Unreadable
import Roster.Proofs.Url.Escaping
import Roster.Proofs.Terminal.Scrolling
import Roster.Proofs.Store.Naming
import Roster.Proofs.Listeners.Balance

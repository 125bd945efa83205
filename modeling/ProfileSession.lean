import ProfileSession.CommandLine
import ProfileSession.Config.Basic
import ProfileSession.Config.File
import ProfileSession.Controller
import ProfileSession.Cookie.Date
import ProfileSession.Cookie.Fault
import ProfileSession.Cookie.Jar
import ProfileSession.Cookie.Scope
import ProfileSession.Cookie.SharedJar
import ProfileSession.Cookie.Text
import ProfileSession.Decimal.Shortest
import ProfileSession.Decimal.Style
import ProfileSession.Directory
import ProfileSession.Error
import ProfileSession.FilePath
import ProfileSession.Handoff
import ProfileSession.Http.Client
import ProfileSession.Http.Flight
import ProfileSession.Http.Header
import ProfileSession.Http.Message
import ProfileSession.Http.Network
import ProfileSession.Http.Redirect
import ProfileSession.Http.Status
import ProfileSession.Http.Wire
import ProfileSession.Json.Fault
import ProfileSession.Json.Lexeme
import ProfileSession.Json.Number
import ProfileSession.Json.Printer
import ProfileSession.Json.Reader
import ProfileSession.Json.Value
import ProfileSession.Main
import ProfileSession.Page.Basic
import ProfileSession.Page.Html
import ProfileSession.Page.Render
import ProfileSession.Profile
import ProfileSession.Profile.Wire
import ProfileSession.Program
import ProfileSession.Program.Run
import ProfileSession.Proofs.Config.Files
import ProfileSession.Proofs.Config.Layers
import ProfileSession.Proofs.Config.Settings
import ProfileSession.Proofs.Controller
import ProfileSession.Proofs.Controller.Refresh
import ProfileSession.Proofs.Cookie.Jar
import ProfileSession.Proofs.Cookie.Scope
import ProfileSession.Proofs.Cookie.Text
import ProfileSession.Proofs.Except
import ProfileSession.Proofs.FilePath
import ProfileSession.Proofs.Handoff
import ProfileSession.Proofs.Handoff.Take
import ProfileSession.Proofs.Http.Ending
import ProfileSession.Proofs.Http.Hops
import ProfileSession.Proofs.Http.Masked
import ProfileSession.Proofs.Json.Passed
import ProfileSession.Proofs.Json.Text
import ProfileSession.Proofs.Json.Value
import ProfileSession.Proofs.Page.Html
import ProfileSession.Proofs.Profile.Fields
import ProfileSession.Proofs.Profile.Object
import ProfileSession.Proofs.Profile.RoundTrip
import ProfileSession.Proofs.Profile.Typed
import ProfileSession.Proofs.Program.Input
import ProfileSession.Proofs.Program.Lines
import ProfileSession.Proofs.Program.Over
import ProfileSession.Proofs.Program.Precedence
import ProfileSession.Proofs.Program.Settled
import ProfileSession.Proofs.Program.SignIn
import ProfileSession.Proofs.Program.Story
import ProfileSession.Proofs.Program.Turn
import ProfileSession.Proofs.Session.Cues
import ProfileSession.Proofs.Session.Deposited
import ProfileSession.Proofs.Session.Events
import ProfileSession.Proofs.Session.Fetch
import ProfileSession.Proofs.Session.Hops
import ProfileSession.Proofs.Session.Location
import ProfileSession.Proofs.Session.Merge
import ProfileSession.Proofs.Session.Opaque
import ProfileSession.Proofs.Session.Outcome
import ProfileSession.Proofs.Session.Over
import ProfileSession.Proofs.Session.Promotion
import ProfileSession.Proofs.Session.Writes
import ProfileSession.Proofs.Storage.Aside
import ProfileSession.Proofs.Storage.Changes
import ProfileSession.Proofs.Storage.Confined
import ProfileSession.Proofs.Storage.Interrupted
import ProfileSession.Proofs.Storage.Items
import ProfileSession.Proofs.Storage.Limit
import ProfileSession.Proofs.Storage.Refinement
import ProfileSession.Proofs.Storage.Save
import ProfileSession.Proofs.Text.Split
import ProfileSession.Proofs.Toml.Distinct
import ProfileSession.Proofs.Toml.Forms
import ProfileSession.Proofs.Toml.RoundTrip
import ProfileSession.Proofs.Url.Domain
import ProfileSession.Proofs.Url.Parse
import ProfileSession.Proofs.Url.Punycode
import ProfileSession.Proofs.Visit.Basic
import ProfileSession.Proofs.Visit.OneTime
import ProfileSession.Proofs.Visit.Opaque
import ProfileSession.Proofs.Visit.Order
import ProfileSession.Proofs.Visit.Rejection
import ProfileSession.Proofs.Visit.Rendering
import ProfileSession.Proofs.Visit.SignedOut
import ProfileSession.Proofs.Visit.TokenMachine
import ProfileSession.Proofs.Visit.Turns
import ProfileSession.Session.Basic
import ProfileSession.Session.Fetch
import ProfileSession.Storage.Basic
import ProfileSession.Storage.FileStorage
import ProfileSession.Storage.Items
import ProfileSession.SystemFault
import ProfileSession.Text.Alphanumeric
import ProfileSession.Text.Blank
import ProfileSession.Text.CaseMap
import ProfileSession.Text.CharSet
import ProfileSession.Text.Compose
import ProfileSession.Text.Direction
import ProfileSession.Text.Escaped
import ProfileSession.Text.Fold
import ProfileSession.Text.Position
import ProfileSession.Text.Split
import ProfileSession.Text.Utf8
import ProfileSession.Token
import ProfileSession.Toml.Fault
import ProfileSession.Toml.Grammar
import ProfileSession.Toml.Lexeme
import ProfileSession.Toml.Number
import ProfileSession.Toml.Printer
import ProfileSession.Toml.Reader
import ProfileSession.Toml.Table
import ProfileSession.Toml.Value
import ProfileSession.Url.Address
import ProfileSession.Url.Basic
import ProfileSession.Url.Domain
import ProfileSession.Url.Fault
import ProfileSession.Url.Host
import ProfileSession.Url.Parse
import ProfileSession.Url.Path
import ProfileSession.Url.Percent
import ProfileSession.Url.Punycode

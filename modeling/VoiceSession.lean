import VoiceSession.Binder
import VoiceSession.Connection
import VoiceSession.Controller.Basic
import VoiceSession.Controller.Lifecycle
import VoiceSession.Controller.Router
import VoiceSession.Controller.Task
import VoiceSession.Decimal.Layout
import VoiceSession.Decimal.Nearest
import VoiceSession.Decimal.Read
import VoiceSession.Decimal.Scale
import VoiceSession.Decimal.Shortest
import VoiceSession.Endpoint
import VoiceSession.Event
import VoiceSession.Failure
import VoiceSession.Host.Channel
import VoiceSession.Host.Direct
import VoiceSession.Host.Runtime
import VoiceSession.Host.Script
import VoiceSession.Host.Spawned
import VoiceSession.Http.Response
import VoiceSession.Http.Route
import VoiceSession.Http.Serve
import VoiceSession.Ini
import VoiceSession.Json.Cursor
import VoiceSession.Json.Decode
import VoiceSession.Json.Error
import VoiceSession.Json.Number
import VoiceSession.Json.Numeral
import VoiceSession.Json.Print
import VoiceSession.Json.Shape
import VoiceSession.Json.Text
import VoiceSession.Json.Tree
import VoiceSession.Json.Value
import VoiceSession.Json5.Grammar
import VoiceSession.Json5.Value
import VoiceSession.Log
import VoiceSession.Media
import VoiceSession.Message
import VoiceSession.Net.Idna
import VoiceSession.Net.Idna.Mapping
import VoiceSession.Net.Idna.Punycode
import VoiceSession.Net.Io
import VoiceSession.Net.Ipv6
import VoiceSession.Net.Url
import VoiceSession.Peg.Expr
import VoiceSession.Peg.Report
import VoiceSession.Peg.Run
import VoiceSession.Ron
import VoiceSession.Search
import VoiceSession.Settings.Basic
import VoiceSession.Settings.Layered
import VoiceSession.Settings.Load
import VoiceSession.Settings.Source
import VoiceSession.Settings.Tree
import VoiceSession.Text.Bidi
import VoiceSession.Text.Blank
import VoiceSession.Text.Canonical
import VoiceSession.Text.Case
import VoiceSession.Text.Category
import VoiceSession.Text.CodeSet
import VoiceSession.Text.Escape
import VoiceSession.Text.Joining
import VoiceSession.Text.Normalize
import VoiceSession.Text.Utf8
import VoiceSession.Toml.Document
import VoiceSession.Toml.Error
import VoiceSession.Toml.Lexer
import VoiceSession.Toml.Parser
import VoiceSession.View
import VoiceSession.Yaml.Document
import VoiceSession.Yaml.Scanner
import VoiceSession.Yaml.Token
import VoiceSession.Proofs.Triple
import VoiceSession.Proofs.Consistency
import VoiceSession.Proofs.Hosts
import VoiceSession.Proofs.Contacts
import VoiceSession.Proofs.Requests
import VoiceSession.Proofs.Calls
import VoiceSession.Proofs.Serving
import VoiceSession.Proofs.DirectRuns
import VoiceSession.Proofs.TransportCalls
import VoiceSession.Proofs.StaleEvents
import VoiceSession.Proofs.Publication
import VoiceSession.Proofs.Sink
import VoiceSession.Proofs.StateChanges
import VoiceSession.Proofs.Restart
import VoiceSession.Proofs.Journal
import VoiceSession.Proofs.LogHistory
import VoiceSession.Proofs.LogCategories
import VoiceSession.Proofs.Answers
import VoiceSession.Proofs.MessageEffects
import VoiceSession.Proofs.Teardown
import VoiceSession.Proofs.ConnectOutcomes
import VoiceSession.Proofs.EventView
import VoiceSession.Proofs.Binding
import VoiceSession.Proofs.SearchDisplay
import VoiceSession.Proofs.SettingsSchema

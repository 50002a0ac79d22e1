import Trellis.App.Basic
import Trellis.App.Handle
import Trellis.App.Plugin
import Trellis.App.Register
import Trellis.Config.Basic
import Trellis.Config.Document
import Trellis.Config.Environment
import Trellis.Error
import Trellis.Http.Body
import Trellis.Http.Headers
import Trellis.Http.Message
import Trellis.Http.Method
import Trellis.Http.Status
import Trellis.Json.Decode
import Trellis.Json.Printer
import Trellis.Json.Reader
import Trellis.Json.Value
import Trellis.KeyMap
import Trellis.Logging.Config
import Trellis.Logging.Event
import Trellis.Logging.Filter
import Trellis.Number.Double
import Trellis.Number.Layout
import Trellis.Number.Numeral
import Trellis.Number.Shortest
import Trellis.Proofs.App.Answer
import Trellis.Proofs.App.Compile
import Trellis.Proofs.App.Setup
import Trellis.Proofs.Except
import Trellis.Proofs.Json.WellFormed
import Trellis.Proofs.KeyMap
import Trellis.Proofs.Routing.Path
import Trellis.Proofs.Routing.Registry
import Trellis.Proofs.Routing.Resolve
import Trellis.Proofs.Routing.Search
import Trellis.Proofs.Routing.StaticTable
import Trellis.Proofs.Routing.Tree
import Trellis.Proofs.Schema.Compile
import Trellis.Proofs.Schema.Fits
import Trellis.Proofs.Schema.Induction
import Trellis.Proofs.Schema.Sound
import Trellis.Proofs.Schema.Visit
import Trellis.Proofs.Schema.Walk
import Trellis.Regex.Anchor
import Trellis.Regex.Basic
import Trellis.Regex.BreakClass
import Trellis.Regex.ByteForm
import Trellis.Regex.CharSet
import Trellis.Regex.ClassName
import Trellis.Regex.Footprint
import Trellis.Regex.Plan
import Trellis.Regex.Reader
import Trellis.Regex.WordTrie
import Trellis.Routing.Group
import Trellis.Routing.Params
import Trellis.Routing.Path
import Trellis.Routing.Pattern
import Trellis.Routing.Router
import Trellis.Routing.StaticTable
import Trellis.Routing.Suggest
import Trellis.Schema.Basic
import Trellis.Schema.Cache
import Trellis.Schema.Check
import Trellis.Schema.Compile
import Trellis.Schema.Format
import Trellis.Schema.Violation
import Trellis.Serving.Action
import Trellis.Serving.Exchange
import Trellis.Serving.Run
import Trellis.Store
import Trellis.Text.Blank
import Trellis.Text.Case
import Trellis.Text.Form
import Trellis.Text.Letter
import Trellis.Text.Percent
import Trellis.Text.Quoted
import Trellis.Text.Utf8
import Trellis.Toml.Reader
import Trellis.Toml.Value
import Trellis.Unicode.Addition
import Trellis.Unicode.Age
import Trellis.Unicode.CaseMap
import Trellis.Unicode.Category
import Trellis.Unicode.Folding
import Trellis.Unicode.Property
import Trellis.Unicode.Ranges
import Trellis.Unicode.Script
import Trellis.Unicode.ScriptExtension
import Trellis.Unicode.Spans
import Trellis.Proofs.Number.Rounding
import Trellis.Proofs.Routing.Captures
import Trellis.Proofs.Schema.Conforms
import Trellis.Proofs.Schema.Relocation
import Trellis.Proofs.Schema.Quiet
import Trellis.Proofs.Schema.Complete
import Trellis.Proofs.App.Course
import Trellis.Proofs.App.Matched
import Trellis.Proofs.App.Order
import Trellis.Proofs.App.Gate
import Trellis.Proofs.App.Seeing
import Trellis.Proofs.Http.Target
import Trellis.Proofs.App.BasePath
import Trellis.Proofs.Routing.Group
import Trellis.Proofs.Routing.Pattern
import Trellis.Proofs.App.Groups
import Trellis.Proofs.Routing.InPlace
import Trellis.Proofs.Routing.Backtracking
import Trellis.Proofs.App.Placed
import Trellis.Proofs.App.Rejection
import Trellis.Proofs.Http.Headers
import Trellis.Proofs.Serving.Effects
import Trellis.Proofs.Serving.Ending
import Trellis.Proofs.App.Fields
import Trellis.Proofs.Text.Utf8
import Trellis.Proofs.Text.Percent
import Trellis.Proofs.Text.Form
import Trellis.Proofs.Http.Body
import Trellis.Proofs.App.Form
import Trellis.Proofs.Schema.Parts
import Trellis.Proofs.Schema.Listed
import Trellis.Proofs.App.Unmatched
import Trellis.Proofs.App.Plugins
import Trellis.Proofs.Number.Nearest
import Trellis.Proofs.Number.Numeral
import Trellis.Proofs.Schema.Cache
import Trellis.Proofs.Schema.Numbers
import Trellis.Proofs.Regex.Beside
import Trellis.Proofs.Regex.Matches
import Trellis.Proofs.Regex.Anchored
import Trellis.Proofs.Schema.Pattern
import Trellis.Proofs.Routing.Naming
import Trellis.Proofs.App.ErrorStage
import Trellis.Proofs.Schema.Faults
import Trellis.Proofs.Schema.Report
import Trellis.Proofs.Routing.Grammar
import Trellis.Proofs.Routing.NormalForm
import Trellis.Proofs.Routing.Listing
import Trellis.Proofs.Routing.EditDistance
import Trellis.Proofs.Routing.Suggest
import Trellis.Proofs.App.Suggestions
import Trellis.Proofs.Regex.Words
import Trellis.Proofs.Schema.Format
import Trellis.Proofs.Routing.Filling
import Trellis.Proofs.App.Filling
import Trellis.Proofs.Routing.Boundary
import Trellis.Proofs.App.Boundary

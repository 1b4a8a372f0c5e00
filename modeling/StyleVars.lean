import StyleVars.About
import StyleVars.Binary64.Basic
import StyleVars.Binary64.Decimal
import StyleVars.CommandLine.Arguments
import StyleVars.CommandLine.Job
import StyleVars.CommandLine.Reach
import StyleVars.CommandLine.Run
import StyleVars.Compiler
import StyleVars.Config
import StyleVars.CssString
import StyleVars.Disk
import StyleVars.Error
import StyleVars.FileSystem
import StyleVars.Helper
import StyleVars.HookedFiles
import StyleVars.Interceptor
import StyleVars.Json.Basic
import StyleVars.Json.Number
import StyleVars.Json.Printer
import StyleVars.Json.Reader
import StyleVars.Main
import StyleVars.Marker
import StyleVars.Path.Basic
import StyleVars.Path.Normalize
import StyleVars.Path.Reference
import StyleVars.Payload.Extract
import StyleVars.Payload.Rule
import StyleVars.Proofs.Binary64.Fixed
import StyleVars.Proofs.CssString.Encoding
import StyleVars.Proofs.Disk.Walk
import StyleVars.Proofs.HookedFiles.Probe
import StyleVars.Proofs.HookedFiles.Read
import StyleVars.Proofs.HookedFiles.Run
import StyleVars.Proofs.HookedFiles.Sentinel
import StyleVars.Proofs.HookedFiles.Steady
import StyleVars.Proofs.Interceptor.Order
import StyleVars.Proofs.Interceptor.Run
import StyleVars.Proofs.Json.Context
import StyleVars.Proofs.Json.Control
import StyleVars.Proofs.Json.Literal
import StyleVars.Proofs.Json.Object
import StyleVars.Proofs.Json.Spelling
import StyleVars.Proofs.Marker.Declaration
import StyleVars.Proofs.Marker.Search
import StyleVars.Proofs.Path.Canonical
import StyleVars.Proofs.Path.Components
import StyleVars.Proofs.Path.Directory
import StyleVars.Proofs.Path.Normalize
import StyleVars.Proofs.Path.Parent
import StyleVars.Proofs.Path.Place
import StyleVars.Proofs.Path.Probe
import StyleVars.Proofs.Path.Reference
import StyleVars.Proofs.Payload.Extract
import StyleVars.Proofs.Payload.Find
import StyleVars.Proofs.Payload.Interpolations
import StyleVars.Proofs.Payload.Keys
import StyleVars.Proofs.Payload.Quoting
import StyleVars.Proofs.Payload.RoundTrip
import StyleVars.Proofs.Payload.Rule
import StyleVars.Proofs.Payload.Template
import StyleVars.Proofs.Render.Lines
import StyleVars.Proofs.Resolve.Candidates
import StyleVars.Proofs.Resolve.Extension
import StyleVars.Proofs.Resolve.Priority
import StyleVars.Proofs.Resolve.Shape
import StyleVars.Proofs.Sass.JsonEncode
import StyleVars.Proofs.Sass.JsonString
import StyleVars.Proofs.Sass.StringParts
import StyleVars.Proofs.Session.Import
import StyleVars.Proofs.Session.Outcome
import StyleVars.Proofs.Session.Request
import StyleVars.Proofs.Text.Affix
import StyleVars.Proofs.Text.Guarded
import StyleVars.Proofs.Text.Split
import StyleVars.Proofs.Text.UpperCase
import StyleVars.Proofs.Variable.Growth
import StyleVars.Proofs.Variable.Lines
import StyleVars.Proofs.Variable.Names
import StyleVars.Proofs.Variable.Spans
import StyleVars.Proofs.Variable.Token
import StyleVars.Proofs.Watch.Directories
import StyleVars.Render
import StyleVars.Resolve
import StyleVars.Sass.Color
import StyleVars.Sass.Compile
import StyleVars.Sass.Css
import StyleVars.Sass.Expression
import StyleVars.Sass.Indented
import StyleVars.Sass.JsonEncode
import StyleVars.Sass.Lexical
import StyleVars.Sass.Lookup
import StyleVars.Sass.Scope
import StyleVars.Sass.Sheet
import StyleVars.Sass.Syntax
import StyleVars.Sass.Value
import StyleVars.Session
import StyleVars.Text.Basic
import StyleVars.Text.Printable
import StyleVars.Text.Reader
import StyleVars.Text.UpperCase
import StyleVars.Text.WhiteSpace
import StyleVars.Text.WordChar
import StyleVars.Toml.Basic
import StyleVars.Toml.Document
import StyleVars.Toml.Scalar
import StyleVars.Variable.Names
import StyleVars.Variable.Token
import StyleVars.Watch
import StyleVars.Proofs.Watch.Directories

import Positional.Text.Quoted
import Positional.Text.Encoding
import Positional.Double.Layout
import Positional.Double.Reading
import Positional.Value.Text
import Positional.Settings
import Positional.Log.Elapsed
import Positional.Template.Scan
import Positional.Rendering
import Positional.Literal
import Positional.Diagnostic
import Positional.Json.Printer
import Positional.Json.Published
import Positional.Feature.Registry
import Positional.CommandLine.Basic
import Positional.Service.Basic
import Positional.Session
import Positional.Main
import Positional.Proofs.Numeral
import Positional.Proofs.Template.NormalForm
import Positional.Proofs.Template.Token
import Positional.Proofs.Template.Reference
import Positional.Proofs.Template.Scan
import Positional.Proofs.Template.Rejection
import Positional.Proofs.Settings
import Positional.Proofs.Template.Grammar
import Positional.Proofs.Template.Pulls
import Positional.Proofs.Feature.Handler
import Positional.Proofs.Template.Spelling
import Positional.Proofs.Template.Acceptance
import Positional.Proofs.Rendering.Append
import Positional.Proofs.Rendering.Escape
import Positional.Proofs.Template.Parsed
import Positional.Proofs.Rendering.Observation
import Positional.Proofs.Template.LeadingZeros
import Positional.Proofs.Template.PartialRun
import Positional.Proofs.Rendering.Rest
import Positional.Proofs.Session.Readers
import Positional.Proofs.Double.Reading
import Positional.Proofs.Json.Quoted
import Positional.Proofs.Text.Blank
import Positional.Proofs.Literal.Forms
import Positional.Proofs.Rendering.Memory
import Positional.Proofs.Rendering.Related
import Positional.Proofs.Rendering.Referenced
import Positional.Proofs.Value.Plain
import Positional.Proofs.Feature.Typed
import Positional.Proofs.Rendering.Reported
import Positional.Proofs.Agreement
import Positional.Proofs.Template.Ceiling
import Positional.Proofs.Feature.Required
import Positional.Proofs.Json.Written
import Positional.Proofs.Literal.Verbatim
import Positional.Proofs.Diagnostic
import Positional.Proofs.Rendering.Faithful
import Positional.Proofs.CommandLine.OptionLike
import Positional.Proofs.Literal.Plain
import Positional.Proofs.CommandLine.Serve
import Positional.Proofs.CommandLine.TemplateFile
import Positional.Proofs.Settings.Integer
import Positional.Proofs.CommandLine.Parse
import Positional.Proofs.Feature.Registry

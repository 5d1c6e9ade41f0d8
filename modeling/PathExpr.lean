import PathExpr.Calendar
import PathExpr.CommandLine.Run
import PathExpr.CommandLine.Settings
import PathExpr.CommandLine.Switch
import PathExpr.Config.Basic
import PathExpr.Config.File
import PathExpr.Document
import PathExpr.Expr.Chain
import PathExpr.Expr.Folding
import PathExpr.Expr.Reference
import PathExpr.Expr.Separator
import PathExpr.Fault
import PathExpr.Format.Json.Reader
import PathExpr.Format.Json.Writer
import PathExpr.Format.Reading
import PathExpr.Format.Toml.Reader
import PathExpr.Format.Toml.Scalar
import PathExpr.Format.Toml.Table
import PathExpr.Format.Toml.Writer
import PathExpr.Format.Xml.Doctype
import PathExpr.Format.Xml.Element
import PathExpr.Format.Xml.Markup
import PathExpr.Format.Xml.Name
import PathExpr.Format.Xml.Reader
import PathExpr.Format.Xml.Writer
import PathExpr.Format.Yaml.Base64
import PathExpr.Format.Yaml.Cell
import PathExpr.Format.Yaml.Leaf
import PathExpr.Format.Yaml.Markers
import PathExpr.Format.Yaml.Node
import PathExpr.Format.Yaml.Reader
import PathExpr.Format.Yaml.ScalarText
import PathExpr.Format.Yaml.Scan
import PathExpr.Format.Yaml.Tag
import PathExpr.Format.Yaml.Token
import PathExpr.Format.Yaml.Writer
import PathExpr.Logger
import PathExpr.Main
import PathExpr.Namespace
import PathExpr.Number.Reading
import PathExpr.Number.Shortest
import PathExpr.Path
import PathExpr.PathSpec
import PathExpr.Project.Group
import PathExpr.Providers
import PathExpr.RawSequence
import PathExpr.Resolver
import PathExpr.Session
import PathExpr.Table.BaseDir
import PathExpr.Table.Constants
import PathExpr.Table.Directories
import PathExpr.Table.ProjectDirs
import PathExpr.Table.UserDir
import PathExpr.Table.Values
import PathExpr.Text.Blank
import PathExpr.Text.Case
import PathExpr.Text.CaseTable
import PathExpr.Text.Digit
import PathExpr.Text.Lines
import PathExpr.Text.Printable
import PathExpr.Text.Quoted
import PathExpr.Text.Split
import PathExpr.Text.Utf8
import PathExpr.Traced
import PathExpr.Value
import PathExpr.Value.Display
import PathExpr.World
import PathExpr.Proofs.Chain.Selection
import PathExpr.Proofs.Chain.Plain
import PathExpr.Proofs.Chain.Project
import PathExpr.Proofs.Text.Recasing
import PathExpr.Proofs.Chain.Folding
import PathExpr.Proofs.Resolve.Element
import PathExpr.Proofs.Resolve.Referral
import PathExpr.Proofs.Resolve.Confinement
import PathExpr.Proofs.Chain.Lone
import PathExpr.Proofs.Resolve.Conduct
import PathExpr.Proofs.Resolve.Disabled
import PathExpr.Proofs.Path.Joined
import PathExpr.Proofs.Resolve.Assembly
import PathExpr.Proofs.Chain.Alternatives
import PathExpr.Proofs.Resolve.Respelling
import PathExpr.Proofs.Number.Digits
import PathExpr.Proofs.Text.Utf8
import PathExpr.Proofs.Format.Json.Nested
import PathExpr.Proofs.Document.RoundTrip
import PathExpr.Proofs.Session.RawValue
import PathExpr.Proofs.Session.Ledger
import PathExpr.Proofs.Session.Run
import PathExpr.Proofs.Table.Faults
import PathExpr.Proofs.Resolve.Faults
import PathExpr.Proofs.Format.Reading
import PathExpr.Proofs.Format.Toml.Entries
import PathExpr.Proofs.Format.Yaml.Texts
import PathExpr.Proofs.Document.Losses
import PathExpr.Proofs.Chain.Growth
import PathExpr.Proofs.Resolve.Dispatch
import PathExpr.Proofs.Format.Xml.Texts
import PathExpr.Proofs.Document.Trimmed
import PathExpr.Proofs.Format.Refusals
import PathExpr.Proofs.Format.Json.Refusals
import PathExpr.Proofs.Format.Toml.Refusals
import PathExpr.Proofs.Format.Xml.Refusals
import PathExpr.Proofs.Format.Yaml.TextFaults
import PathExpr.Proofs.Format.Yaml.Refusals
import PathExpr.Proofs.Config.Entries
import PathExpr.Proofs.CommandLine.Contained
import PathExpr.Proofs.Path.Normal
import PathExpr.Proofs.Project.Dotted
import PathExpr.Proofs.Table.Bases
import PathExpr.Proofs.Project.Below
import PathExpr.Proofs.Config.Judged
import PathExpr.Proofs.Document.Sequence
import PathExpr.Proofs.Table.Rooted
import PathExpr.Proofs.Resolve.Draws
import PathExpr.Proofs.Text.Lines
import PathExpr.Proofs.Table.Assignments
import PathExpr.Proofs.Resolve.Displayed
import PathExpr.Proofs.Expr.Tokens
import PathExpr.Proofs.Chain.Layout

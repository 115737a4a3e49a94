import SchemaBridge.CommandLine.Arguments
import SchemaBridge.CommandLine.Command
import SchemaBridge.CommandLine.Folder
import SchemaBridge.CommandLine.Markup
import SchemaBridge.CommandLine.PathTable
import SchemaBridge.CommandLine.Run
import SchemaBridge.CommandLine.Usage
import SchemaBridge.Decimal.Binary64
import SchemaBridge.Decimal.Layout
import SchemaBridge.Decimal.Shortest
import SchemaBridge.Failure
import SchemaBridge.Fields
import SchemaBridge.Instance.Reading
import SchemaBridge.Instance.Values
import SchemaBridge.Json.Basic
import SchemaBridge.Json.Literal
import SchemaBridge.Json.Printer
import SchemaBridge.JsonSchema.Basic
import SchemaBridge.JsonSchema.Emission
import SchemaBridge.JsonSchema.Emitter
import SchemaBridge.JsonSchema.Session
import SchemaBridge.JsonSchema.SimpleType
import SchemaBridge.Main
import SchemaBridge.Options
import SchemaBridge.Paths.Collecting
import SchemaBridge.Paths.Collector
import SchemaBridge.Paths.Visits
import SchemaBridge.Pattern
import SchemaBridge.Proofs.Fields
import SchemaBridge.Proofs.JsonSchema.Content
import SchemaBridge.Proofs.JsonSchema.Depth
import SchemaBridge.Proofs.JsonSchema.Leaves
import SchemaBridge.Proofs.JsonSchema.Reach
import SchemaBridge.Proofs.JsonSchema.Written
import SchemaBridge.Proofs.Paths.Chain
import SchemaBridge.Proofs.Paths.Consistency
import SchemaBridge.Proofs.Paths.Depth
import SchemaBridge.Proofs.Paths.WrittenChain
import SchemaBridge.Proofs.Xsd.Declares
import SchemaBridge.Proofs.Xsd.Nesting
import SchemaBridge.Proofs.Xsd.Registered
import SchemaBridge.Scalar.Numeral
import SchemaBridge.Scalar.Reading
import SchemaBridge.Text.Blank
import SchemaBridge.Text.Columns
import SchemaBridge.Text.Digit
import SchemaBridge.Text.Printable
import SchemaBridge.Xml.Character
import SchemaBridge.Xml.CodePage
import SchemaBridge.Xml.ContentModel
import SchemaBridge.Xml.Declarations
import SchemaBridge.Xml.Doctype
import SchemaBridge.Xml.Document
import SchemaBridge.Xml.Encoding
import SchemaBridge.Xml.Entity
import SchemaBridge.Xml.Grid.Japanese
import SchemaBridge.Xml.Grid.Korean
import SchemaBridge.Xml.Grid.Simplified
import SchemaBridge.Xml.Grid.Traditional
import SchemaBridge.Xml.LocalName
import SchemaBridge.Xml.Markup
import SchemaBridge.Xml.Namespace
import SchemaBridge.Xml.PairPage
import SchemaBridge.Xml.QualifiedName
import SchemaBridge.Xml.Reading
import SchemaBridge.Xml.Reference
import SchemaBridge.Xml.Report
import SchemaBridge.Xml.StartTag
import SchemaBridge.Xml.Token
import SchemaBridge.Xml.Tree
import SchemaBridge.Xml.Uri
import SchemaBridge.Xml.Value
import SchemaBridge.Xsd.Builtin
import SchemaBridge.Xsd.Content
import SchemaBridge.Xsd.Model
import SchemaBridge.Xsd.Nesting
import SchemaBridge.Xsd.OpenNames
import SchemaBridge.Xsd.Reader
import SchemaBridge.Xsd.Registry
import SchemaBridge.Xsd.TypeMap
import SchemaBridge.Proofs.JsonSchema.Nodes
import SchemaBridge.Proofs.Xsd.TypeNames
import SchemaBridge.Proofs.JsonSchema.Shape
import SchemaBridge.Proofs.JsonSchema.References
import SchemaBridge.Proofs.JsonSchema.Definitions
import SchemaBridge.Proofs.Instance.Values
import SchemaBridge.Proofs.Xsd.Includes
import SchemaBridge.Proofs.Paths.Unique
import SchemaBridge.Proofs.JsonSchema.TextSchemas
import SchemaBridge.Proofs.Instance.Validity
import SchemaBridge.Proofs.Instance.Conformance
import SchemaBridge.Proofs.JsonSchema.Dialects
import SchemaBridge.Proofs.Instance.Wrapping
import SchemaBridge.Proofs.Instance.PlainValues
import SchemaBridge.Proofs.Xsd.ElementReading
import SchemaBridge.Proofs.Paths.Circles
import SchemaBridge.Proofs.Paths.ListTexts
import SchemaBridge.Proofs.JsonSchema.SideBySide
import SchemaBridge.Proofs.JsonSchema.OriginTypes
import SchemaBridge.Proofs.JsonSchema.ArrayPolicies
import SchemaBridge.Proofs.JsonSchema.Labels
import SchemaBridge.Proofs.JsonSchema.Reuse
import SchemaBridge.Proofs.Paths.Unions
import SchemaBridge.Proofs.JsonSchema.FlatReference
import SchemaBridge.Proofs.JsonSchema.RepeatedNames
import SchemaBridge.Proofs.Paths.Policies
import SchemaBridge.Proofs.Text.Words
import SchemaBridge.Proofs.Decimal.Overflow
import SchemaBridge.Proofs.Scalar.Limits
import SchemaBridge.Proofs.Instance.Readable
import SchemaBridge.Proofs.Instance.Objects
import SchemaBridge.Proofs.Instance.Texts
import SchemaBridge.Proofs.Instance.OtherArrays
import SchemaBridge.Proofs.Instance.Precedence
import SchemaBridge.Proofs.Instance.Numbers
import SchemaBridge.Proofs.Paths.ListResolution
import SchemaBridge.Proofs.Scalar.Agreement
import SchemaBridge.Proofs.JsonSchema.RestrictionKeywords
import SchemaBridge.Proofs.Patterns.Units
import SchemaBridge.Proofs.Patterns.Syntax
import SchemaBridge.Proofs.Patterns.Search
import SchemaBridge.Proofs.Patterns.Reader
import SchemaBridge.Proofs.Patterns.Classes
import SchemaBridge.Proofs.Patterns.ReadBack
import SchemaBridge.Proofs.Patterns.Translation
import SchemaBridge.Proofs.Xsd.Blocks
import SchemaBridge.Proofs.Xsd.Spelling
import SchemaBridge.Proofs.JsonSchema.BlockWalks
import SchemaBridge.Proofs.JsonSchema.RecordedCalls
import SchemaBridge.Proofs.JsonSchema.TypeContent

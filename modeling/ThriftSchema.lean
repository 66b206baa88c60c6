import ThriftSchema.Assembly.Entry
import ThriftSchema.Assembly.Error
import ThriftSchema.Assembly.Leaf
import ThriftSchema.Assembly.Reduction
import ThriftSchema.Bindings
import ThriftSchema.Command.Console
import ThriftSchema.Command.Request
import ThriftSchema.Command.Session
import ThriftSchema.Comment
import ThriftSchema.Event
import ThriftSchema.Failure
import ThriftSchema.Inclusion
import ThriftSchema.Json
import ThriftSchema.Main
import ThriftSchema.Number.Double
import ThriftSchema.Number.Integer
import ThriftSchema.Number.Shortest
import ThriftSchema.Options
import ThriftSchema.Outline.Basic
import ThriftSchema.Outline.Export
import ThriftSchema.Outline.Import
import ThriftSchema.Outline.OfSchema
import ThriftSchema.Outline.Tree
import ThriftSchema.Production
import ThriftSchema.Proofs.Assembly.Discipline
import ThriftSchema.Proofs.Assembly.Leaf
import ThriftSchema.Proofs.Assembly.Performs
import ThriftSchema.Proofs.Assembly.Production
import ThriftSchema.Proofs.Assembly.Reduction
import ThriftSchema.Proofs.Assembly.Tame
import ThriftSchema.Proofs.Canonical.Document
import ThriftSchema.Proofs.Canonical.Lexeme
import ThriftSchema.Proofs.Canonical.Member
import ThriftSchema.Proofs.Canonical.Overlong
import ThriftSchema.Proofs.Canonical.Roundtrip
import ThriftSchema.Proofs.Canonical.Text
import ThriftSchema.Proofs.Canonical.Token
import ThriftSchema.Proofs.Canonical.Value
import ThriftSchema.Proofs.Command.ExitStatus
import ThriftSchema.Proofs.Command.JsonOutput
import ThriftSchema.Proofs.Command.Session
import ThriftSchema.Proofs.Confined.Basic
import ThriftSchema.Proofs.Confined.Part
import ThriftSchema.Proofs.Confined.Token
import ThriftSchema.Proofs.Confined.Value
import ThriftSchema.Proofs.Depth
import ThriftSchema.Proofs.Expectation.Depth
import ThriftSchema.Proofs.Expectation.Document
import ThriftSchema.Proofs.Expectation.Form
import ThriftSchema.Proofs.Expectation.Matcher
import ThriftSchema.Proofs.Expectation.Outlook
import ThriftSchema.Proofs.Expectation.Overdeep
import ThriftSchema.Proofs.Expectation.Replay
import ThriftSchema.Proofs.Expectation.Report
import ThriftSchema.Proofs.Expectation.Resumption
import ThriftSchema.Proofs.Expectation.Seam
import ThriftSchema.Proofs.Expectation.Shape
import ThriftSchema.Proofs.Expectation.Vocabulary
import ThriftSchema.Proofs.Expectation.Walk
import ThriftSchema.Proofs.Grammar.Levels
import ThriftSchema.Proofs.Grammar.Phrase
import ThriftSchema.Proofs.Grammar.Sound
import ThriftSchema.Proofs.Inclusion.Cycle
import ThriftSchema.Proofs.Inclusion.Files
import ThriftSchema.Proofs.Inclusion.Flatten
import ThriftSchema.Proofs.Inclusion.Level
import ThriftSchema.Proofs.Inclusion.Outcome
import ThriftSchema.Proofs.Inclusion.Policy
import ThriftSchema.Proofs.Inclusion.Printed
import ThriftSchema.Proofs.Inclusion.Stored
import ThriftSchema.Proofs.Inclusion.Visit
import ThriftSchema.Proofs.Json
import ThriftSchema.Proofs.Layout.Cut
import ThriftSchema.Proofs.Layout.Insertion
import ThriftSchema.Proofs.Layout.Report
import ThriftSchema.Proofs.Layout.Scan
import ThriftSchema.Proofs.Merging.Document
import ThriftSchema.Proofs.Merging.Junction
import ThriftSchema.Proofs.Merging.Part
import ThriftSchema.Proofs.Number.Nearest
import ThriftSchema.Proofs.Number.Readback
import ThriftSchema.Proofs.Number.Shortest
import ThriftSchema.Proofs.Number.Spelling
import ThriftSchema.Proofs.Outline.Distinction
import ThriftSchema.Proofs.Outline.Label
import ThriftSchema.Proofs.Outline.Readback
import ThriftSchema.Proofs.Outline.Reading
import ThriftSchema.Proofs.Outline.Shape
import ThriftSchema.Proofs.Outline.Tree
import ThriftSchema.Proofs.Quotation.Literals
import ThriftSchema.Proofs.Quotation.Quotes
import ThriftSchema.Proofs.Reader.Balance
import ThriftSchema.Proofs.Reader.Basic
import ThriftSchema.Proofs.Reader.First
import ThriftSchema.Proofs.Reader.Lockstep
import ThriftSchema.Proofs.Reader.Nesting
import ThriftSchema.Proofs.Reader.Production
import ThriftSchema.Proofs.Reader.Token
import ThriftSchema.Proofs.Reading
import ThriftSchema.Proofs.Recognition
import ThriftSchema.Proofs.Rejection
import ThriftSchema.Proofs.Rule.Ahead
import ThriftSchema.Proofs.Rule.Backtracking
import ThriftSchema.Proofs.Rule.Bare
import ThriftSchema.Proofs.Rule.Depth
import ThriftSchema.Proofs.Rule.Extent
import ThriftSchema.Proofs.Rule.Invocation
import ThriftSchema.Proofs.Rule.Level
import ThriftSchema.Proofs.Rule.Origin
import ThriftSchema.Proofs.Rule.Progress
import ThriftSchema.Proofs.Settings.Adjustment
import ThriftSchema.Proofs.Settings.Numbering
import ThriftSchema.Proofs.Source.Keys
import ThriftSchema.Proofs.Source.Walk
import ThriftSchema.Proofs.Teletype.Host
import ThriftSchema.Proofs.Teletype.Markup
import ThriftSchema.Proofs.Teletype.Style
import ThriftSchema.Proofs.Text.Append
import ThriftSchema.Proofs.Text.Balance
import ThriftSchema.Proofs.Text.Composition
import ThriftSchema.Proofs.Text.Escape
import ThriftSchema.Proofs.Text.Excess
import ThriftSchema.Proofs.Text.Lexeme
import ThriftSchema.Proofs.Text.Lines
import ThriftSchema.Proofs.Text.Local
import ThriftSchema.Proofs.Text.Nesting
import ThriftSchema.Proofs.Text.Numeral
import ThriftSchema.Proofs.Text.Plain
import ThriftSchema.Proofs.Text.Quoted
import ThriftSchema.Proofs.Text.Scan
import ThriftSchema.Proofs.Text.Spelled
import ThriftSchema.Proofs.Text.Split
import ThriftSchema.Proofs.Text.Trim
import ThriftSchema.Reading
import ThriftSchema.Rule.Basic
import ThriftSchema.Rule.Pattern
import ThriftSchema.Rule.Rejection
import ThriftSchema.Rule.Run
import ThriftSchema.Rule.State
import ThriftSchema.Schema.Basic
import ThriftSchema.Schema.Document
import ThriftSchema.Source.Encoding
import ThriftSchema.Source.Encoding.Basic
import ThriftSchema.Source.Encoding.CharacterGrid
import ThriftSchema.Source.Encoding.Chinese
import ThriftSchema.Source.Encoding.CodePage
import ThriftSchema.Source.Encoding.CodePage.Console
import ThriftSchema.Source.Encoding.CodePage.Ebcdic
import ThriftSchema.Source.Encoding.CodePage.Iso
import ThriftSchema.Source.Encoding.CodePage.Koi8
import ThriftSchema.Source.Encoding.CodePage.Macintosh
import ThriftSchema.Source.Encoding.CodePage.Windows
import ThriftSchema.Source.Encoding.Escaped
import ThriftSchema.Source.Encoding.Grid.Big5
import ThriftSchema.Source.Encoding.Grid.Gb2312
import ThriftSchema.Source.Encoding.Grid.Gbk
import ThriftSchema.Source.Encoding.Grid.HongKong
import ThriftSchema.Source.Encoding.Grid.Jis0208
import ThriftSchema.Source.Encoding.Grid.Jis0212
import ThriftSchema.Source.Encoding.Grid.Jis0213
import ThriftSchema.Source.Encoding.Grid.Ksx1001
import ThriftSchema.Source.Encoding.Grid.Vendor932
import ThriftSchema.Source.Encoding.Iso2022
import ThriftSchema.Source.Encoding.Japanese
import ThriftSchema.Source.Encoding.Korean
import ThriftSchema.Source.Encoding.Name
import ThriftSchema.Source.Encoding.Punycode
import ThriftSchema.Source.Encoding.Utf16
import ThriftSchema.Source.Encoding.Utf7
import ThriftSchema.Source.Encoding.Utf8
import ThriftSchema.Source.FileError
import ThriftSchema.Source.FileTree
import ThriftSchema.Source.Files
import ThriftSchema.Source.Loader
import ThriftSchema.Source.Memory
import ThriftSchema.Source.Path
import ThriftSchema.Teletype.Arguments
import ThriftSchema.Teletype.CellRanges
import ThriftSchema.Teletype.Color
import ThriftSchema.Teletype.Host
import ThriftSchema.Teletype.Literal
import ThriftSchema.Teletype.Literal.Token
import ThriftSchema.Teletype.Markup
import ThriftSchema.Teletype.Style
import ThriftSchema.Teletype.Table
import ThriftSchema.Teletype.Width
import ThriftSchema.Text.Blank
import ThriftSchema.Text.Digit
import ThriftSchema.Text.Escape
import ThriftSchema.Text.LowerCase
import ThriftSchema.Text.Position
import ThriftSchema.Text.Printable
import ThriftSchema.Text.Quoted
import ThriftSchema.Text.Range
import ThriftSchema.Text.Split
import ThriftSchema.Text.Word

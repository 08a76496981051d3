import HouseStyle.Main
import HouseStyle.Proofs.Toml.Quoted
import HouseStyle.Proofs.Toml.Value
import HouseStyle.Proofs.Toml.Document
import HouseStyle.Proofs.Config.Document
import HouseStyle.Proofs.Config.RoundTrip
import HouseStyle.Proofs.Source.Signature
import HouseStyle.Proofs.Source.Lines
import HouseStyle.Proofs.Source.Composition
import HouseStyle.Proofs.Rule.Block
import HouseStyle.Proofs.Source.Default
import HouseStyle.Proofs.Source.Parameter
import HouseStyle.Proofs.Regex.Capture
import HouseStyle.Proofs.Rule.Tag
import HouseStyle.Proofs.Rule.Parameter
import HouseStyle.Proofs.Command.Reading
import HouseStyle.Proofs.Path.Order
import HouseStyle.Proofs.Path.Extension
import HouseStyle.Proofs.Report.Entries
import HouseStyle.Proofs.Report.Summary
import HouseStyle.Proofs.Report.Collection
import HouseStyle.Proofs.Rule.Sequence
import HouseStyle.Proofs.Linter.Sequence
import HouseStyle.Proofs.Result
import HouseStyle.Proofs.Regex.Quote
import HouseStyle.Proofs.Rule.Pattern
import HouseStyle.Proofs.Glob.Nesting
import HouseStyle.Proofs.Config.Validity
import HouseStyle.Proofs.Program.Check
import HouseStyle.Proofs.Program.Selection
import HouseStyle.Proofs.Command.Override
import HouseStyle.Proofs.Linter.Narrowing
import HouseStyle.Proofs.Folder.Write
import HouseStyle.Proofs.Program.Effect
import HouseStyle.Proofs.Source.WellFormed
import HouseStyle.Proofs.Text.Lines
import HouseStyle.Proofs.Source.EmptyLines
import HouseStyle.Proofs.Rule.EmptyLines
import HouseStyle.Proofs.Linter.EmptyLines
import HouseStyle.Proofs.Json.Plain
import HouseStyle.Proofs.Report.Colors
import HouseStyle.Proofs.Program.Presentation
import HouseStyle.Proofs.Folder.Frame
import HouseStyle.Proofs.Path.FileName
import HouseStyle.Proofs.Folder.User
import HouseStyle.Proofs.Folder.Walk
import HouseStyle.Proofs.Program.Repeat
import HouseStyle.Proofs.Rule.Ordering
import HouseStyle.Proofs.Text.Words
import HouseStyle.Proofs.Source.Brackets
import HouseStyle.Proofs.Source.ParameterList
import HouseStyle.Proofs.Rule.Finding
import HouseStyle.Proofs.Linter.LineNumber
import HouseStyle.Proofs.Regex.Inside
import HouseStyle.Proofs.Source.LineFeed
import HouseStyle.Proofs.Rule.LineFeed
import HouseStyle.Proofs.Report.Rows
import HouseStyle.Proofs.Linter.LineByLine
import HouseStyle.Proofs.Rule.Scopes
import HouseStyle.Proofs.Rule.Gaps
import HouseStyle.Proofs.Source.QualifiedCall
import HouseStyle.Proofs.Source.DefaultedParameter
import HouseStyle.Proofs.Rule.Mention
import HouseStyle.Proofs.Rule.Documented
import HouseStyle.Proofs.Rule.NearestBlock
import HouseStyle.Proofs.Rule.SortedSymbols
import HouseStyle.Proofs.Source.WrappedSignature
import HouseStyle.Proofs.Json.Injective
import HouseStyle.Proofs.Report.Document
import HouseStyle.Proofs.Source.Assignment
import HouseStyle.Proofs.Regex.FirstMatch
import HouseStyle.Proofs.Source.ConstantPattern
import HouseStyle.Proofs.Source.ConstantReading
import HouseStyle.Proofs.Source.Constants
import HouseStyle.Proofs.Source.IncludeCategory
import HouseStyle.Proofs.Source.ScopedPattern
import HouseStyle.Proofs.Linter.LineEnds
import HouseStyle.Proofs.Source.ScopeToken
import HouseStyle.Proofs.Path.Join
import HouseStyle.Proofs.Folder.Files
import HouseStyle.Proofs.Folder.Search
import HouseStyle.Proofs.Source.StrippedSpans
